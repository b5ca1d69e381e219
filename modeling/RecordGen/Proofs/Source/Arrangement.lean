import RecordGen.Proofs.Source.Classes
import RecordGen.Source.Kept
import RecordGen.Source.Parentheses
import Mathlib.Data.List.Forall2

/-!
# Arranging the tree of a module

What a layout does to the tree of imports and of a class before it cuts it into lines. Comments that are
no directives keep nothing. Hidden parentheses come around the names of an import and around an
annotation; everything else stays.
-/

namespace RecordGen.Source

open Grammar

variable {t t' : Tree} {kind : NodeKind} {l : Leaf} {lead : Text}

/-! ## Kept code -/

mutual

theorem map_fst_placesOf (path : Path) (t : Tree) :
    (placesOf path t).map Prod.fst = t.leaves := by
  cases t with
  | leaf l => rfl
  | node kind children => exact map_fst_childPlaces kind path [] children

theorem map_fst_childPlaces
    (kind : NodeKind)
    (path : Path)
    (before children : List Tree) :
    (childPlaces kind path before children).map Prod.fst = Tree.allLeaves children := by
  cases children with
  | nil => rfl
  | cons t rest =>
      rw [childPlaces, List.map_append, map_fst_placesOf, map_fst_childPlaces, Tree.allLeaves]

end

theorem leadComments_eq_nil
    {atEnd : Bool}
    (uncommented : commentMark ∉ lead) :
    leadComments atEnd lead = [] := by
  simp [leadComments, uncommented]

/-- None of the comments of a lead switches the layout off. -/
def HasNoSwitch (lead : Text) : Prop :=
  ∀ comment ∈ leadComments false lead, offDirectives.contains comment.text = false

theorem hasNoSwitch_of_not_mem
    (uncommented : commentMark ∉ lead) :
    HasNoSwitch lead := by
  simp [HasNoSwitch, leadComments_eq_nil uncommented]

/-- Nothing stands in front of the first leaf that a comment could skip. -/
theorem keepComment?_first
    {path : Path} {n extent : Nat} {comments : List Comment}
    (noSwitch : ∀ comment ∈ comments, offDirectives.contains comment.text = false) :
    keepComment? t n l path [] extent comments = none := by
  induction comments generalizing extent with
  | nil => rfl
  | cons comment rest inductionHypothesis =>
      obtain ⟨own, later⟩ := List.forall_mem_cons.mp noSwitch
      rw [keepComment?, own]
      simp [inductionHypothesis later]

theorem keepFirst?_eq_none
    {n : Nat} {before : List Leaf} {places : List (Leaf × Path)}
    (uncommented : ∀ place ∈ places, commentMark ∉ place.1.lead) :
    keepFirst? t n before places = none := by
  induction places generalizing n before with
  | nil => rfl
  | cons place places inductionHypothesis =>
      obtain ⟨own, later⟩ := List.forall_mem_cons.mp uncommented
      rw [keepFirst?, leadComments_eq_nil own]
      exact inductionHypothesis later

/-- A tree with comments in front of its first leaf alone keeps no code if none of them switches the
layout off. -/
theorem withKept_eq_self
    {others : List Leaf}
    (leaves : t.leaves = l :: others)
    (noSwitch : HasNoSwitch l.lead)
    (uncommented : ∀ other ∈ others, commentMark ∉ other.lead) :
    t.withKept = t := by
  have places := map_fst_placesOf [] t
  have nothing : keepFirst? t 0 [] (placesOf [] t) = none := by
    rw [leaves] at places
    obtain ⟨⟨first, path⟩, rest, spelled, rfl, behind⟩ := List.map_eq_cons_iff.mp places
    rw [spelled, keepFirst?, keepComment?_first noSwitch]
    refine keepFirst?_eq_none fun place member => uncommented _ ?_
    rw [← behind]
    exact List.mem_map_of_mem member
  have kept (fuel : Nat) : keepDirectives fuel t = t := by
    cases fuel with
    | zero => rfl
    | succ fuel => rw [keepDirectives, nothing]
  rw [Tree.withKept, kept, ite_self]

/-! ## Arranging trees -/

variable {groups : Bool} {depth : Nat} {children others ts : List Tree}

/-- However often from some depth on, and behind whatever neighbour, the tree is arranged to another. -/
def Arranges (groups : Bool) (depth : Nat) (t t' : Tree) : Prop :=
  ∀ fuel, depth ≤ fuel → ∀ previous, arrange groups fuel previous t = t'

theorem Arranges.mono
    {deeper : Nat}
    (arranges : Arranges groups depth t t')
    (below : depth ≤ deeper) :
    Arranges groups deeper t t' :=
  fun fuel enough => arranges fuel (Nat.le_trans below enough)

theorem arranges_leaf (l : Leaf) : Arranges groups depth (.leaf l) (.leaf l) := by
  intro fuel _ previous
  cases fuel <;> rfl

theorem map_arrange
    {fuel : Nat}
    (enough : depth ≤ fuel)
    (aligned : List.Forall₂ (Arranges groups depth) others ts)
    (previous : Option Tree) :
    (((previous :: others.map some).zip others).map fun (before, t) => arrange groups fuel before t) =
      ts := by
  induction aligned generalizing previous with
  | nil => rfl
  | @cons t t' others ts own _ inductionHypothesis =>
      rw [List.map_cons, List.zip_cons_cons, List.map_cons, inductionHypothesis (some t)]
      exact congrArg (· :: ts) (own fuel enough previous)

/-- A node is arranged as its children are, once its own parentheses are. -/
theorem arranges_node
    (own : ∀ previous, arrangeChildren groups kind previous children = others)
    (aligned : List.Forall₂ (Arranges groups depth) others ts) :
    Arranges groups (depth + 1) (.node kind children) (.node kind ts) := by
  intro fuel enough previous
  obtain ⟨fuel, rfl⟩ := Nat.exists_eq_add_of_le' (Nat.le_of_add_left_le enough)
  rw [arrange, own previous, map_arrange (Nat.le_of_add_le_add_right enough) aligned]

/-- The nodes that have no parentheses of their own. -/
def bareKinds : List NodeKind :=
  [.text, .block, .decorated, .decorator, .classBlock, .importName, .trailer, .bitOr]

theorem arrangeChildren_bare
    (bare : kind ∈ bareKinds)
    (previous : Option Tree) :
    arrangeChildren groups kind previous children = children := by
  simp only [bareKinds, List.mem_cons, List.not_mem_nil, or_false] at bare
  rcases bare with rfl | rfl | rfl | rfl | rfl | rfl | rfl | rfl <;> rfl

theorem arranges_bare
    (bare : kind ∈ bareKinds)
    (aligned : List.Forall₂ (Arranges groups depth) children ts) :
    Arranges groups (depth + 1) (.node kind children) (.node kind ts) :=
  arranges_node (arrangeChildren_bare bare) aligned

theorem forall₂_leaves
    (leaves : List Leaf) :
    List.Forall₂ (Arranges groups depth) (leaves.map Tree.leaf) (leaves.map Tree.leaf) := by
  induction leaves with
  | nil => exact .nil
  | cons l leaves inductionHypothesis => exact .cons (arranges_leaf l) inductionHypothesis

/-- A line of one statement is arranged as the statement is, if this is no operation. -/
theorem arranges_simpleLine
    {statement statement' : Tree}
    (arranges : Arranges groups depth statement statement')
    (noOperation : statement.isOperation = false) :
    Arranges groups (depth + 1) (.node .simpleLine [statement, .leaf Leaf.ending])
      (.node .simpleLine [statement', .leaf Leaf.ending]) := by
  refine arranges_node (fun previous => ?_) (.cons arranges (.cons (arranges_leaf _) .nil))
  simp only [arrangeChildren, arrangeLine, noOperation]
  cases statement.isMark ";" <;> rfl

/-! ## Imports -/

def hiddenMark (s : String) (lead : Text) : Leaf := ⟨.mark, .ofString s, lead, true⟩

/-- The line that imports a name, in hidden parentheses, from a module. -/
def wrappedImportLine (lead : Text) (module l : Leaf) : Tree :=
  .node .simpleLine
    [.node .importFrom (([.ofWord lead (.ofString "from"), module,
      .ofWord [CodePoint.space] (.ofString "import"), hiddenMark "(" [], l,
        hiddenMark ")" []]).map Tree.leaf), .leaf Leaf.ending]

theorem arranges_importLine (lead : Text) (l : Leaf) :
    Arranges groups 2 (importLine lead l) (importLine lead l) :=
  arranges_simpleLine (arranges_bare (by decide) (forall₂_leaves [_, l])) rfl

/-- A statement arranges its parts, if no directive is in front of them. -/
theorem arrangeStatement_eq
    (plain : kind ≠ .withBlock)
    (noSwitch : HasNoSwitch ((children.head?.map Tree.lead).getD []))
    (single : children.head?.any (·.isNode .starExpressions) = false) :
    arrangeStatement groups kind children =
      optionalParts kind (marksBefore kind) false none children := by
  have noOff : (leadComments false ((children.head?.map Tree.lead).getD [])).any
      (fun comment => offDirectives.contains comment.text) = false :=
    List.any_eq_false.mpr fun comment member => by simpa using noSwitch comment member
  simp only [arrangeStatement, noOff, single, plain, Bool.false_eq_true, ↓reduceIte, decide_false,
    Bool.and_false]

theorem arranges_importFromLine
    {module : Leaf}
    (noSwitch : HasNoSwitch lead)
    (named : module.text ≠ .ofString "import")
    (noMark : l.kind ≠ .mark) :
    Arranges groups 2 (importFromLine lead module l) (wrappedImportLine lead module l) := by
  refine arranges_simpleLine (arranges_node (fun previous => ?_) (forall₂_leaves _)) rfl
  have wraps : optionalParts .importFrom (marksBefore .importFrom) false none
      [.leaf (.ofWord lead (.ofString "from")), .leaf module,
        .leaf (.ofWord [CodePoint.space] (.ofString "import")), .leaf l] =
      ([.ofWord lead (.ofString "from"), module,
        .ofWord [CodePoint.space] (.ofString "import"), hiddenMark "(" [], l,
          hiddenMark ")" []]).map Tree.leaf := by
    have noFrom : (Tree.leaf (.ofWord lead (.ofString "from"))).isOneOf ["import"] = false := rfl
    have noModule : (Tree.leaf module).isOneOf ["import"] = false := by
      simp [Tree.isOneOf, Tree.isLeafWhere, named]
    have noBracket : (Tree.leaf l).isMark "(" = false := Leaf.isMark_of_kind noMark
    have noStar : (Tree.leaf l).isMark "*" = false := Leaf.isMark_of_kind noMark
    have behindImport : (Tree.leaf (.ofWord [CodePoint.space] (.ofString "import"))).isOneOf
        ["import"] = true := rfl
    simp only [optionalParts, marksBefore, noFrom, noModule, behindImport, hideImportParentheses,
      noBracket, noStar]
    rfl
  have stays : arrangeStatement groups .importFrom [.leaf (.ofWord lead (.ofString "from")),
      .leaf module, .leaf (.ofWord [CodePoint.space] (.ofString "import")), .leaf l] = _ :=
    arrangeStatement_eq (by decide) noSwitch rfl
  exact stays.trans wraps

/-! ## Annotations -/

/-- The trees of annotations, with what is seen of them: one leaf, an attribute of a name, or two
alternatives. -/
inductive IsTypeTree : Tree → Text → Prop
  | single {l : Leaf} : l.isMultilineString = false → IsTypeTree (.leaf l) l.shown
  | qualified {l own : Leaf} :
      l.kind = .word → l.isWord "await" = false → own.kind = .word →
        IsTypeTree (.node .power [.leaf l, .node .trailer [.leaf (.ofMark [] "."), .leaf own]])
          (l.shown ++ Text.ofString "." ++ own.shown)
  | alternatives {l own : Leaf} {lead : Text} :
      l.kind = .word ∨ l.kind = .number → own.kind = .word →
        IsTypeTree (.node .bitOr [.leaf l, .leaf (bar lead), .leaf own])
          (l.shown ++ Text.ofString " | " ++ own.shown)

variable {seen : Text}

theorem forall_mem_qualified
    {l dot own : Leaf} {holds : Leaf → Prop} :
    (∀ x ∈ (Tree.node .power [.leaf l, .node .trailer [.leaf dot, .leaf own]]).leaves, holds x) ↔
      holds l ∧ holds dot ∧ holds own := by
  simp [Tree.leaves, Tree.allLeaves]

theorem forall_mem_alternatives
    {l mark own : Leaf} {holds : Leaf → Prop} :
    (∀ x ∈ (Tree.node .bitOr [.leaf l, .leaf mark, .leaf own]).leaves, holds x) ↔
      holds l ∧ holds mark ∧ holds own := by
  simp [Tree.leaves, Tree.allLeaves]

theorem IsTypeTree.withLead
    (isType : IsTypeTree t seen)
    (lead : Text) :
    IsTypeTree (t.withLead lead) seen := by
  cases isType with
  | @single l whole => exact @IsTypeTree.single { l with lead } whole
  | @qualified l own word noAwait word' =>
      exact @IsTypeTree.qualified { l with lead } own word noAwait word'
  | @alternatives l own lead' operand word =>
      exact @IsTypeTree.alternatives { l with lead } own lead' operand word

theorem IsTypeTree.arranges
    (isType : IsTypeTree t seen) :
    Arranges groups 2 t t := by
  cases isType with
  | single => exact arranges_leaf _
  | @qualified l own word noAwait =>
      have trailer : Arranges groups 1 (.node .trailer [.leaf (.ofMark [] "."), .leaf own])
          (.node .trailer [.leaf (.ofMark [] "."), .leaf own]) :=
        arranges_bare (by decide) (forall₂_leaves [.ofMark [] ".", own])
      refine arranges_node (fun previous => ?_) (.cons (arranges_leaf l) (.cons trailer .nil))
      have noNumber : l.needsParentheses = false := by simp [Leaf.needsParentheses, word]
      have noWait : (Tree.leaf l).isWord "await" = false := noAwait
      simp [arrangeChildren, arrangeNumbers, arrangeWaiting, Tree.isLeafWhere, noNumber, noWait]
  | @alternatives l own lead =>
      have flat : Arranges groups 1 (.node .bitOr [.leaf l, .leaf (bar lead), .leaf own])
          (.node .bitOr [.leaf l, .leaf (bar lead), .leaf own]) :=
        arranges_bare (by decide) (forall₂_leaves [l, bar lead, own])
      exact flat.mono (by decide)

theorem IsTypeTree.hideParentheses
    (isType : IsTypeTree t seen)
    (parent : NodeKind)
    (commasToo : Bool) :
    (hideParentheses parent commasToo t).1 = t := by
  cases isType <;> rfl

theorem IsTypeTree.optionalPart
    (isType : IsTypeTree t seen)
    (previous : Option Tree) :
    optionalPart .hint previous t = t.inParentheses true := by
  cases isType with
  | @single l whole =>
      have oneLine : (Tree.leaf l).isLeafWhere Leaf.isMultilineString = false := whole
      simp [Source.optionalPart, Tree.isNode, Tree.kind?, Tree.isBareOneTuple, oneLine]
  | qualified => rfl
  | alternatives => rfl

/-- An annotation in hidden parentheses. -/
theorem IsTypeTree.arranges_inParentheses
    (isType : IsTypeTree t seen) :
    Arranges groups 3 (t.inParentheses true) (t.inParentheses true) := by
  have inner := isType.withLead []
  have aligned : List.Forall₂ (Arranges groups 2)
      [parenthesis "(" t.lead true, t.withLead [], parenthesis ")" [] true]
      [parenthesis "(" t.lead true, t.withLead [], parenthesis ")" [] true] :=
    .cons (arranges_leaf _) (.cons inner.arranges (.cons (arranges_leaf _) .nil))
  refine arranges_node (fun previous => ?_) aligned
  have opens : (parenthesis "(" t.lead true).isMark "(" = true := rfl
  simp [arrangeChildren, opens, inner.hideParentheses]

/-- The line that gives a leaf a type in hidden parentheses. -/
def wrappedLine (l : Leaf) (type : Tree) : Tree :=
  .node .simpleLine [.node .assignment
    [.leaf l, .node .hint [.leaf colon, type.inParentheses true]], .leaf Leaf.ending]

/-- An identifier is no mark of an assignment. -/
theorem isOneOf_assignmentMarks
    (identifier : Unicode.isIdentifier l.text = true) :
    (Tree.leaf l).isOneOf marksBefore.assignmentMarks = false := by
  have marks : ∀ s ∈ marksBefore.assignmentMarks, Unicode.isIdentifier (.ofString s) = false := by
    decide
  refine List.any_eq_false.mpr fun s member => ?_
  rw [decide_eq_true_eq]
  intro same
  rw [same, marks s member] at identifier
  cases identifier

theorem arranges_typedLine
    {type : Tree}
    (identifier : Unicode.isIdentifier l.text = true)
    (uncommented : commentMark ∉ l.lead)
    (isType : IsTypeTree type seen) :
    Arranges groups 6 (typedLine l type) (wrappedLine l type) := by
  have hint : Arranges groups 4 (.node .hint [.leaf colon, type])
      (.node .hint [.leaf colon, type.inParentheses true]) := by
    refine arranges_node (fun previous => ?_)
      (.cons (arranges_leaf _) (.cons isType.arranges_inParentheses .nil))
    have behindColon : (Tree.leaf colon).isOneOf (marksBefore .hint) = true := rfl
    have quiet : HasNoSwitch (Tree.leaf colon).lead := hasNoSwitch_of_not_mem (by decide)
    have stays : arrangeStatement groups .hint [.leaf colon, type] = _ :=
      arrangeStatement_eq (by decide) quiet rfl
    refine stays.trans ?_
    simp [optionalParts, behindColon, isType.optionalPart]
  have parts : arrangeStatement groups .assignment [.leaf l, .node .hint [.leaf colon, type]] =
      [.leaf l, .node .hint [.leaf colon, type]] := by
    have noMark : (Tree.leaf l).isOneOf (marksBefore .assignment) = false :=
      isOneOf_assignmentMarks identifier
    have quiet : HasNoSwitch (Tree.leaf l).lead := hasNoSwitch_of_not_mem uncommented
    have stays : arrangeStatement groups .assignment
        [.leaf l, .node .hint [.leaf colon, type]] = _ :=
      arrangeStatement_eq (by decide) quiet rfl
    refine stays.trans ?_
    simp [optionalParts, noMark]
  have assignment : Arranges groups 5 (.node .assignment [.leaf l, .node .hint [.leaf colon, type]])
      (.node .assignment [.leaf l, .node .hint [.leaf colon, type.inParentheses true]]) :=
    arranges_node (fun _ => parts) (.cons (arranges_leaf l) (.cons hint .nil))
  exact arranges_simpleLine assignment rfl

/-! ## Classes and texts -/

theorem arranges_classTree
    {decorator name : Leaf} {body body' : List Tree}
    (aligned : List.Forall₂ (Arranges groups depth) body body') :
    Arranges groups (depth + 3) (classTree lead decorator name body)
      (classTree lead decorator name body') := by
  have closed : List.Forall₂ (Arranges groups depth) (body ++ [.leaf Leaf.closing])
      (body' ++ [.leaf Leaf.closing]) :=
    List.rel_append aligned (.cons (arranges_leaf _) .nil)
  have block : Arranges groups (depth + 1)
      (.node .block (.leaf Leaf.ending :: .leaf Leaf.opening :: body ++ [.leaf Leaf.closing])) _ :=
    arranges_bare (by decide) (.cons (arranges_leaf _) (.cons (arranges_leaf _) closed))
  have class_ : Arranges groups (depth + 2) (.node .classBlock [.leaf classWord, .leaf name,
      .leaf colon, .node .block
        (.leaf Leaf.ending :: .leaf Leaf.opening :: body ++ [.leaf Leaf.closing])]) _ :=
    arranges_bare (by decide)
      (.cons (arranges_leaf _) (.cons (arranges_leaf _) (.cons (arranges_leaf _) (.cons block .nil))))
  have line : Arranges groups (depth + 2)
      (.node .decorator [.leaf (.ofMark lead "@"), .leaf decorator, .leaf Leaf.ending]) _ :=
    (arranges_bare (by decide) (forall₂_leaves [.ofMark lead "@", decorator, Leaf.ending])).mono
      (Nat.le_add_left 1 (depth + 1))
  exact arranges_bare (by decide) (.cons line (.cons class_ .nil))

/-- A text is arranged as its statements are. -/
theorem withOptionalParentheses_text
    {statements statements' : List Tree}
    (aligned : List.Forall₂ (Arranges groups 15) statements statements') :
    (Tree.node .text statements).withOptionalParentheses groups = .node .text statements' :=
  arranges_bare (by decide) aligned _ (Nat.le_add_left _ _) none

end RecordGen.Source
