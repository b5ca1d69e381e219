import RecordGen.Proofs.Schema.FirstFault
import RecordGen.Proofs.Text.Pieces

/-!
# Paths of errors

What a path says about the place of an error. The names on the way to a node are not escaped in a path,
so a name with slashes can read like several steps, or like a step and a keyword. A document without such
names has no path in common for two places, and the path of an error tells the node and the keyword.
-/

namespace RecordGen

/-- The mark between the parts of a path. -/
def Location.slash : CodePoint := CodePoint.ofChar '/'

open Location

/-! ## The parts of a path -/

/-- What a path may end with behind its steps: nothing, or a keyword whose words are to blame. -/
def Location.endings : List (Option Keyword) := [none, some .type, some .format]

/-- The parts of a path behind its root, between the slashes. -/
def Location.parts (steps : List Text) (keyword : Option Keyword) : List Text :=
  steps.flatMap (fun name => Keyword.properties.name :: name.pieces slash) ++
    (keyword.map Keyword.name).toList

theorem Location.parts_cons (name : Text) (steps : List Text) (keyword : Option Keyword) :
    parts (name :: steps) keyword =
      Keyword.properties.name :: (name.pieces slash ++ parts steps keyword) := by
  simp [parts]

theorem Keyword.slash_not_mem_name (keyword : Keyword) : slash ∉ keyword.name := by
  cases keyword <;> decide

theorem Location.pieces_append_steps (start : Text) (steps : List Text) (keyword : Option Keyword) :
    Text.pieces slash
        (start ++ (steps.flatMap (fun name => Text.ofString "/properties/" ++ name) ++
          (match keyword with
          | none => []
          | some keyword => Text.ofString "/" ++ keyword.name))) =
      start.pieces slash ++ parts steps keyword := by
  induction steps generalizing start with
  | nil =>
      cases keyword with
      | none =>
          simp [parts]
      | some keyword =>
          have behind : Text.ofString "/" ++ keyword.name = slash :: keyword.name := rfl
          simp only [List.flatMap_nil, List.nil_append, behind, Text.pieces_append_mark,
            Text.pieces_of_not_mem keyword.slash_not_mem_name]
          rfl
  | cons name steps inductionHypothesis =>
      have behind : Text.ofString "/properties/" = slash :: (Keyword.properties.name ++ [slash]) := rfl
      have step := inductionHypothesis name
      simp only [parts, List.flatMap_cons, behind, List.append_assoc, List.cons_append,
        List.nil_append, Text.pieces_append_mark, Keyword.slash_not_mem_name,
        Text.pieces_of_not_mem, not_false_eq_true] at step ⊢
      rw [step]

/-- The pieces of a path between its slashes. -/
theorem Location.pieces_text (steps : List Text) (keyword : Option Keyword) :
    (Location.text { steps, keyword }).pieces slash = Text.ofString "#" :: parts steps keyword := by
  have spelled := pieces_append_steps (Text.ofString "#") steps keyword
  rw [Text.pieces_of_not_mem (t := Text.ofString "#") (by decide), ← List.append_assoc] at spelled
  exact spelled

/-! ## Names that read as one step -/

/-- A name that reads as one step wherever it is: it has no slash, or none of its parts between slashes
is the word between two steps and the last one is no keyword that a path may end with. -/
def IsSingleStep (name : Text) : Prop :=
  slash ∉ name ∨
    Keyword.properties.name ∉ name.pieces slash ∧
      ∀ keyword ∈ [Keyword.type, Keyword.format],
        (name.pieces slash).getLast? ≠ some keyword.name
deriving Decidable

/-- What stands behind a step in the parts of a path: nothing, a keyword at the end, or the next step. -/
theorem Location.parts_cases
    {keyword : Option Keyword}
    (ending : keyword ∈ endings)
    (steps : List Text) :
    parts steps keyword = [] ∨
      (∃ k ∈ [Keyword.type, Keyword.format], parts steps keyword = [k.name]) ∨
      ∃ rest, parts steps keyword = Keyword.properties.name :: rest := by
  cases steps with
  | nil =>
      simp only [endings, List.mem_cons, List.not_mem_nil, or_false] at ending
      rcases ending with rfl | rfl | rfl
      · exact Or.inl rfl
      · exact Or.inr (Or.inl ⟨.type, by simp, rfl⟩)
      · exact Or.inr (Or.inl ⟨.format, by simp, rfl⟩)
  | cons name steps =>
      exact Or.inr (Or.inr ⟨_, parts_cons name steps keyword⟩)

/-- A single step does not go on in what stands behind another step. -/
theorem IsSingleStep.eq_nil_of_pieces
    {name other : Text} {steps : List Text} {keyword : Option Keyword} {more rest : List Text}
    (single : IsSingleStep other)
    (ending : keyword ∈ endings)
    (longer : other.pieces slash = name.pieces slash ++ more)
    (behind : parts steps keyword = more ++ rest) :
    more = [] := by
  cases more with
  | nil => rfl
  | cons part more =>
      obtain ⟨first, others, spelled⟩ := List.exists_cons_of_ne_nil (Text.pieces_ne_nil slash name)
      rcases single with free | ⟨noProperties, noKeyword⟩
      · rw [Text.pieces_of_not_mem free, spelled] at longer
        simp at longer
      · rcases parts_cases ending steps with none | ⟨k, listed, last⟩ | ⟨next, onward⟩
        · rw [none] at behind
          cases behind
        · rw [last] at behind
          obtain ⟨rfl, empty⟩ := List.cons.inj behind
          obtain ⟨rfl, -⟩ := List.append_eq_nil_iff.mp empty.symm
          exact absurd (by rw [longer, List.getLast?_concat]) (noKeyword k listed)
        · rw [onward] at behind
          obtain ⟨rfl, -⟩ := List.cons.inj behind
          exact absurd (by rw [longer]; simp) noProperties

/-- Steps that read as one each can be told from the parts of a path, and so can its end. -/
theorem Location.parts_injective
    {steps steps' : List Text} {keyword keyword' : Option Keyword}
    (single : ∀ name ∈ steps, IsSingleStep name)
    (single' : ∀ name ∈ steps', IsSingleStep name)
    (ending : keyword ∈ endings)
    (ending' : keyword' ∈ endings)
    (same : parts steps keyword = parts steps' keyword') :
    steps = steps' ∧ keyword = keyword' := by
  -- An ending never starts with the word that leads to a child.
  have apart (rest : List Text) {k : Option Keyword} (listed : k ∈ endings) :
      Keyword.properties.name :: rest ≠ parts [] k := by
    intro spelled
    have inEnding : Keyword.properties.name ∈ parts [] k := spelled ▸ List.mem_cons_self
    simp only [endings, List.mem_cons, List.not_mem_nil, or_false] at listed
    rcases listed with rfl | rfl | rfl <;> revert inEnding <;> decide
  induction steps generalizing steps' with
  | nil =>
      cases steps' with
      | nil =>
          simp only [endings, List.mem_cons, List.not_mem_nil, or_false] at ending ending'
          rcases ending with rfl | rfl | rfl <;> rcases ending' with rfl | rfl | rfl <;>
            revert same <;> decide
      | cons name' steps' =>
          rw [parts_cons] at same
          exact absurd same.symm (apart _ ending)
  | cons name steps inductionHypothesis =>
      cases steps' with
      | nil =>
          rw [parts_cons] at same
          exact absurd same (apart _ ending')
      | cons name' steps' =>
          obtain ⟨own, others⟩ := List.forall_mem_cons.mp single
          obtain ⟨own', others'⟩ := List.forall_mem_cons.mp single'
          have joined : name.pieces slash ++ parts steps keyword =
              name'.pieces slash ++ parts steps' keyword' := by
            rw [parts_cons, parts_cons] at same
            exact (List.cons.inj same).2
          have names : name.pieces slash = name'.pieces slash ∧
              parts steps keyword = parts steps' keyword' := by
            rcases List.append_eq_append_iff.mp joined with ⟨more, longer, behind⟩ | ⟨more, longer, behind⟩
            · obtain rfl := own'.eq_nil_of_pieces ending longer behind
              exact ⟨by simpa using longer.symm, by simpa using behind⟩
            · obtain rfl := own.eq_nil_of_pieces ending' longer behind
              exact ⟨by simpa using longer, by simpa using behind.symm⟩
          obtain ⟨rfl, rfl⟩ := inductionHypothesis others others' names.2
          exact ⟨by rw [Text.pieces_injective slash names.1], rfl⟩

/-! ## The places of a document -/

namespace Schema

/-- A node of a document, at the end of some steps from the root. -/
inductive IsNode : Json.Value → List Text → Json.Value → Prop
  | here (node : Json.Value) : IsNode node [] node
  | child {node inner found : Json.Value} {name : Text} {steps : List Text} :
      (name, inner) ∈ children node → IsNode inner steps found → IsNode node (name :: steps) found

/-- A place that a path is about: a node, or its keyword for types or for a format. -/
structure IsPlace (value : Json.Value) (place : Location) (node : Json.Value) : Prop where
  root : place.root = Text.ofString "#"
  node : IsNode value place.steps node
  keyword : place.keyword ∈ endings

theorem IsNode.unique
    {value node node' : Json.Value} {steps : List Text}
    (single : value.NamesOnce)
    (found : IsNode value steps node)
    (found' : IsNode value steps node') :
    node = node' := by
  induction found with
  | here => cases found'; rfl
  | child member _ inductionHypothesis =>
      cases namesOnce_children single with
      | obj names values =>
          cases found' with
          | child member' below =>
              obtain ⟨-, rfl⟩ := Prod.mk.inj (List.inj_on_of_nodup_map names member member' rfl)
              exact inductionHypothesis (values _ member) below

theorem Reaches.isNode
    {value node : Json.Value} {steps : List Text}
    (reached : Reaches value steps node) :
    IsNode value steps node := by
  induction reached with
  | here node => exact .here node
  | child _ split _ _ inductionHypothesis =>
      exact .child (by rw [split]; simp) inductionHypothesis

/-- The path of an error ends with nothing or with a keyword. -/
theorem IsPath.exists_ending
    {steps : List Text} {error : DecodeError}
    (path : IsPath steps error) :
    ∃ keyword ∈ endings, error.place.text = Location.text { steps, keyword } := by
  rw [IsPath] at path
  cases error with
  | unsupportedType => exact ⟨some .type, by simp [endings], path⟩
  | invalidType => exact ⟨some .type, by simp [endings], path⟩
  | unsupportedFormat => exact ⟨some .format, by simp [endings], path⟩
  | _ => exact ⟨none, by simp [endings], path⟩

/-- The path of an error tells the node and the keyword that fail. In a document whose names read as one
step each no two places have a path in common, be it the path of a node or that of its keyword for types
or for a format; and a decoding error has the path of the node that has failed or of its keyword. -/
theorem place_of_path
    {value : Json.Value}
    (single : value.NamesOnce)
    (steady : ∀ steps node, IsNode value steps node → ∀ name ∈ steps, IsSingleStep name) :
    (∀ place other node node', IsPlace value place node → IsPlace value other node' →
      place.text = other.text → place = other ∧ node = node') ∧
    ∀ error, ofValue value = .error (.error error) →
      ∃ place node, IsPlace value place node ∧ NodeFault { steps := place.steps } node (.error error) ∧
        place.text = error.place.text ∧
          ∀ other node', IsPlace value other node' → other.text = error.place.text →
            other = place ∧ node' = node := by
  -- The text of a place is cut at its slashes again, and the steps are single pieces.
  have different (place other : Location) (node node' : Json.Value)
      (found : IsPlace value place node) (found' : IsPlace value other node')
      (same : place.text = other.text) : place = other ∧ node = node' := by
    obtain ⟨root, steps, keyword⟩ := place
    obtain ⟨root', steps', keyword'⟩ := other
    obtain ⟨rfl, below, ending⟩ := found
    obtain ⟨rfl, below', ending'⟩ := found'
    have pieces := congrArg (Text.pieces slash) same
    rw [pieces_text, pieces_text, List.cons.injEq] at pieces
    obtain ⟨rfl, rfl⟩ := parts_injective (steady steps node below) (steady steps' node' below')
      ending ending' pieces.2
    exact ⟨rfl, below.unique single below'⟩
  refine ⟨different, fun error failed => ?_⟩
  obtain ⟨steps, node, reached, fault⟩ := (decodeNode_eq_error_iff value).mp failed
  have located : NodeFault { steps } node (.error error) := fault
  obtain ⟨alone, -, comesFrom⟩ := located.exists_comesFrom
  obtain ⟨keyword, ending, path⟩ := (comesFrom.path error rfl).exists_ending
  have here : IsPlace value { steps, keyword } node := ⟨rfl, reached.isNode, ending⟩
  refine ⟨{ steps, keyword }, node, here, located, path.symm, fun other node' found same => ?_⟩
  exact different other _ node' node found here (same.trans path)

/-- A node that names no type, below a name with a slash and the word between two steps. -/
def nestedValue : Json.Value :=
  .obj [(Keyword.properties.name, .obj [(.ofString "a/b",
    .obj [(Keyword.properties.name, .obj [(Keyword.properties.name,
      .obj [(Keyword.type.name, .str (.ofString "x"))])])])])]

/-- The text of the node. -/
def nestedDocument : Json.Document :=
  .text (.ofString ("\x7b\"properties\": \x7b\"a/b\": \x7b\"properties\": \x7b\"properties\": " ++
    "\x7b\"type\": \"x\"\x7d\x7d\x7d\x7d\x7d"))

theorem place_of_path_nested :
    nestedValue.NamesOnce ∧
      (∀ steps node, IsNode nestedValue steps node → ∀ name ∈ steps, IsSingleStep name) ∧
      ∀ place node, IsPlace nestedValue place node →
        place.text = .ofString "#/properties/a/b/properties/properties/type" →
          place = ⟨.ofString "#", [.ofString "a/b", .ofString "properties"], some .type⟩ := by
  have read : nestedDocument.value = .ok nestedValue := by decide +kernel
  have single : nestedValue.NamesOnce := Json.namesOnce_of_value read
  have steady : ∀ steps node, IsNode nestedValue steps node → ∀ name ∈ steps, IsSingleStep name := by
    have slashed : IsSingleStep (.ofString "a/b") := by decide
    have plain : IsSingleStep (.ofString "properties") := by decide
    intro steps node found
    cases found with
    | here => simp
    | child member below =>
      obtain ⟨rfl, rfl⟩ := Prod.mk.inj (List.mem_singleton.mp member)
      cases below with
      | here => simpa using slashed
      | child member below =>
        obtain ⟨rfl, rfl⟩ := Prod.mk.inj (List.mem_singleton.mp member)
        cases below with
        | here => simpa using ⟨slashed, plain⟩
        | child member below => cases member
  refine ⟨single, steady, fun place node found path => ?_⟩
  obtain ⟨different, -⟩ := place_of_path single steady
  have here : IsPlace nestedValue
      ⟨.ofString "#", [.ofString "a/b", .ofString "properties"], some .type⟩
      (.obj [(Keyword.type.name, .str (.ofString "x"))]) :=
    ⟨rfl, .child List.mem_cons_self (.child List.mem_cons_self (.here _)), by decide⟩
  exact (different place _ node _ found here (path.trans (by decide +kernel))).1

/-- A name that reads like two steps, beside these two steps. -/
def slashedValue : Json.Value :=
  .obj [(Keyword.properties.name, .obj [
    (.ofString "a/properties/b", .int 1),
    (.ofString "a", .obj [(Keyword.properties.name, .obj [(.ofString "b", .obj [])])])])]

/-- The text of these names. -/
def slashedDocument : Json.Document :=
  .text (.ofString ("\x7b\"properties\": \x7b\"a/properties/b\": 1, " ++
    "\"a\": \x7b\"properties\": \x7b\"b\": \x7b\x7d\x7d\x7d\x7d\x7d"))

/-- Two nodes of a document can have one path, and then the path of an error does not tell which of
them has failed. -/
theorem slashedDocument_shares_path :
    slashedDocument.value = .ok slashedValue ∧
      IsPlace slashedValue ⟨.ofString "#", [.ofString "a/properties/b"], none⟩ (.int 1) ∧
      IsPlace slashedValue ⟨.ofString "#", [.ofString "a", .ofString "b"], none⟩ (.obj []) ∧
      Location.text ⟨.ofString "#", [.ofString "a/properties/b"], none⟩ =
        Location.text ⟨.ofString "#", [.ofString "a", .ofString "b"], none⟩ ∧
      ofDocument slashedDocument = .error (.error (.invalidKeyword .schema (.int 1) .object
        ⟨.ofString "#", [.ofString "a/properties/b"], none⟩)) := by
  have first : IsPlace slashedValue ⟨.ofString "#", [.ofString "a/properties/b"], none⟩ (.int 1) :=
    ⟨rfl, .child List.mem_cons_self (.here _), by decide⟩
  have second : IsPlace slashedValue ⟨.ofString "#", [.ofString "a", .ofString "b"], none⟩ (.obj []) :=
    ⟨rfl, .child (List.mem_cons_of_mem _ List.mem_cons_self) (.child List.mem_cons_self (.here _)),
      by decide⟩
  have read : slashedDocument.value = .ok slashedValue := by
    rw [slashedDocument, Text.ofString_append, Text.ofString_ofList, Text.ofString_ofList]
    decide +kernel
  have failed : (ofDocument slashedDocument).map (fun _ => ()) =
      .error (.error (.invalidKeyword .schema (.int 1) .object
        ⟨.ofString "#", [.ofString "a/properties/b"], none⟩)) := by
    rw [ofDocument, read]
    decide +kernel
  exact ⟨read, first, second, by decide +kernel, map_eq_error.mp failed⟩

end Schema
end RecordGen
