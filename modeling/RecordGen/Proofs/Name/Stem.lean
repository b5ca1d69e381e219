import RecordGen.Proofs.Name.Words
import RecordGen.Proofs.Record.Declaration
import RecordGen.Proofs.Text.Cuts

/-!
# Stems

What the type name of a URI depends on: the stem of the last segment of its path. A scheme, an
authority, directories, an extension, a query and a fragment can be put around the stem, and none of
them takes a part of another.
-/

namespace RecordGen

namespace Uri

/-! ## Parts of URIs -/

/-- Starts a query or a fragment. -/
def startsTail (c : CodePoint) : Bool := c = CodePoint.ofChar '?' || c = CodePoint.ofChar '#'

/-- A query, a fragment or both, or nothing. -/
structure IsTail (tail : Text) : Prop where
  marked : tail.head?.all startsTail = true
  clean : tail.any isControl = false

/-- What stands in front of the last segment of a URI. -/
structure Place where
  scheme : Text
  authority : Text
  directory : Text

def Place.text (place : Place) : Text :=
  place.scheme ++ Text.ofString "://" ++ place.authority ++ place.directory ++ Text.ofString "/"

/-- The authority is one of ASCII code points, and no part has a mark that starts another part. -/
structure Place.IsWellFormed (place : Place) : Prop where
  letter : place.scheme.head?.any CodePoint.isAsciiLetter = true
  scheme : place.scheme.all isSchemePoint = true
  authority : place.authority.all (fun c => c.isAscii && !isDelimiter c &&
    c ≠ CodePoint.ofChar '[' && c ≠ CodePoint.ofChar ']') = true
  rooted : place.directory.head?.all (· = CodePoint.ofChar '/') = true
  directory : place.directory.any startsTail = false
  clean : place.text.any isControl = false

/-- The last segment of a URI, cut at its first point, and what follows it. -/
structure Ending where
  stem : Text
  extension : Text
  tail : Text

def Ending.text (ending : Ending) : Text := ending.stem ++ ending.extension ++ ending.tail

/-- The stem and the extension stay within one segment, and what follows is a tail. -/
structure Ending.IsWellFormed (ending : Ending) : Prop where
  stem : ending.stem.all (fun c => !isDelimiter c && c ≠ CodePoint.ofChar '.') = true
  pointed : ending.extension.head?.all (· = CodePoint.ofChar '.') = true
  extension : ending.extension.all (fun c => !isDelimiter c) = true
  clean : (ending.stem ++ ending.extension).any isControl = false
  tail : IsTail ending.tail

/-! ## Tails -/

variable {uri tail : Text}

theorem IsTail.stop
    {keep : CodePoint → Bool}
    (isTail : IsTail tail)
    (stops : ∀ c, startsTail c = true → keep c = false) :
    tail.head?.any keep = false := by
  cases tail with
  | nil => rfl
  | cons c rest => exact stops c isTail.marked

theorem eq_of_startsTail
    {c : CodePoint}
    (starts : startsTail c = true) :
    c = CodePoint.ofChar '?' ∨ c = CodePoint.ofChar '#' := by
  simpa [startsTail] using starts

/-- A scheme is not found behind a code point that belongs to none. -/
theorem dropScheme_of_mem
    {c : CodePoint}
    (inside : c ∈ (uri.cut (CodePoint.ofChar ':')).1)
    (outside : isSchemePoint c = false) :
    dropScheme uri = uri := by
  unfold dropScheme
  split
  · rename_i first others rest spelled
    rw [spelled] at inside
    split_ifs with scheme
    · simp only [Bool.and_eq_true, List.all_eq_true] at scheme
      have point : isSchemePoint c = true := by
        rcases List.mem_cons.mp inside with rfl | later
        · simp [isSchemePoint, scheme.1]
        · exact scheme.2 c later
      rw [outside] at point
      cases point
    · rfl
  · rfl

theorem dropScheme_of_not_mem
    (free : CodePoint.ofChar ':' ∉ uri) :
    dropScheme uri = uri := by
  unfold dropScheme
  rw [Text.cut_of_not_mem free]
  cases uri <;> rfl

theorem dropScheme_append
    (isTail : IsTail tail) :
    dropScheme (uri ++ tail) = dropScheme uri ++ tail := by
  by_cases colon : CodePoint.ofChar ':' ∈ uri
  · obtain ⟨scheme, rest, rfl, free⟩ := List.eq_append_cons_of_mem colon
    rw [List.append_assoc, List.cons_append, dropScheme, dropScheme,
      Text.cut_append_mark free, Text.cut_append_mark free]
    cases scheme with
    | nil => simp
    | cons first others =>
        dsimp only
        split <;> simp
  · rw [dropScheme_of_not_mem colon]
    cases tail with
    | nil => rw [List.append_nil, dropScheme_of_not_mem colon]
    | cons c rest =>
        have starts : startsTail c = true := isTail.marked
        have inside : c ∈ ((uri ++ c :: rest).cut (CodePoint.ofChar ':')).1 := by
          have different : c ≠ CodePoint.ofChar ':' := by
            rcases eq_of_startsTail starts with rfl | rfl <;> decide
          rw [Text.cut_append_of_not_mem colon, Text.cut, if_neg different]
          simp
        have outside : isSchemePoint c = false := by
          rcases eq_of_startsTail starts with rfl | rfl <;> decide
        exact dropScheme_of_mem inside outside

theorem splitAuthority_append
    (isTail : IsTail tail) :
    splitAuthority (uri ++ tail) =
      ((splitAuthority uri).1, (splitAuthority uri).2 ++ tail) := by
  have noSlash {c : CodePoint} (starts : startsTail c = true) : c ≠ CodePoint.ofChar '/' := by
    rcases eq_of_startsTail starts with rfl | rfl <;> decide
  match uri with
  | [] =>
      match tail with
      | [] => rfl
      | [c] => rfl
      | c :: d :: rest => simp [splitAuthority, noSlash isTail.marked]
  | [a] =>
      match tail with
      | [] => rfl
      | c :: rest => simp [splitAuthority, noSlash isTail.marked]
  | a :: b :: rest =>
      have stop : tail.head?.any (fun c => !isDelimiter c) = false := isTail.stop fun c starts => by
        rcases eq_of_startsTail starts with rfl | rfl <;> decide
      simp only [List.cons_append, splitAuthority]
      split_ifs
      · rw [List.span_eq_takeWhile_dropWhile, List.span_eq_takeWhile_dropWhile,
          Text.takeWhile_append_of_stop stop, Text.dropWhile_append_of_stop stop]
      · rfl

/-! ## Paths -/

/-- What is behind the scheme and in front of it is a part of the text, and so is what is behind the
authority. -/
theorem dropScheme_subset (uri : Text) : dropScheme uri ⊆ uri := by
  by_cases colon : CodePoint.ofChar ':' ∈ uri
  · obtain ⟨scheme, rest, rfl, free⟩ := List.eq_append_cons_of_mem colon
    have behind : rest ⊆ scheme ++ CodePoint.ofChar ':' :: rest := fun c member =>
      List.mem_append_right scheme (List.mem_cons_of_mem _ member)
    rw [dropScheme, Text.cut_append_mark free]
    cases scheme with
    | nil => exact List.Subset.refl _
    | cons first others =>
        dsimp only
        split
        · exact behind
        · exact List.Subset.refl _
  · rw [dropScheme_of_not_mem colon]
    exact List.Subset.refl _

theorem splitAuthority_subset (uri : Text) : (splitAuthority uri).2 ⊆ uri := by
  unfold splitAuthority
  split
  · rename_i a b rest
    dsimp only
    split
    · rw [List.span_eq_takeWhile_dropWhile]
      exact fun c member => List.mem_cons_of_mem a (List.mem_cons_of_mem b
        ((List.dropWhile_sublist _).subset member))
    · exact List.Subset.refl _
  · exact List.Subset.refl _

/-- The text behind the blanks at the start of a URI. -/
def unpadded (uri : Text) : Text := uri.dropWhile fun c => c.val ≤ 0x20

/-- The text up to its query and fragment. -/
def untailed (t : Text) : Text := (t.before (CodePoint.ofChar '#')).before (CodePoint.ofChar '?')

theorem path_eq
    (clean : uri.any isControl = false) :
    path uri = (do
      let parts := splitAuthority (dropScheme (unpadded uri))
      checkBrackets parts.1
      checkForms parts.1
      return untailed parts.2) := by
  rw [path, clean]
  rfl

theorem untailed_of_free
    {t : Text}
    (free : t.any startsTail = false) :
    untailed t = t := by
  have apart : CodePoint.ofChar '#' ∉ t ∧ CodePoint.ofChar '?' ∉ t := by
    constructor <;> exact fun member => absurd (List.any_eq_false.mp free _ member) (by decide)
  rw [untailed, Text.before_of_not_mem apart.1, Text.before_of_not_mem apart.2]

theorem untailed_append
    {t : Text}
    (free : t.any startsTail = false)
    (isTail : IsTail tail) :
    untailed (t ++ tail) = t := by
  have both (u : Text) : untailed u = u.takeWhile fun c => !startsTail c := by
    rw [untailed, Text.before, Text.before, List.takeWhile_takeWhile]
    simp [startsTail]
  have stop : tail.head?.any (fun c => !startsTail c) = false :=
    isTail.stop fun c starts => by simp [starts]
  rw [both, Text.takeWhile_append_of_stop stop, ← both, untailed_of_free free]

/-- Neither a query nor a fragment changes the path, or the fault, of a URI that has none. -/
theorem path_append
    (free : uri.any startsTail = false)
    (isTail : IsTail tail) :
    path (uri ++ tail) = path uri := by
  cases control : uri.any isControl with
  | true =>
      have whole : (uri ++ tail).any isControl = true := by rw [List.any_append, control]; rfl
      rw [path, path, whole, control]
      rfl
  | false =>
      have whole : (uri ++ tail).any isControl = false := by
        rw [List.any_append, control, isTail.clean]
        rfl
      have stop : tail.head?.any (fun c => decide (c.val ≤ 0x20)) = false :=
        isTail.stop fun c starts => by rcases eq_of_startsTail starts with rfl | rfl <;> decide
      have padded : unpadded (uri ++ tail) = unpadded uri ++ tail :=
        Text.dropWhile_append_of_stop stop uri
      have later : (splitAuthority (dropScheme (unpadded uri))).2.any startsTail = false := by
        refine List.any_eq_false.mpr fun c member => List.any_eq_false.mp free c ?_
        have inside := dropScheme_subset _ (splitAuthority_subset _ member)
        exact (List.dropWhile_sublist _).subset inside
      rw [path_eq whole, path_eq control, padded, dropScheme_append isTail,
        splitAuthority_append isTail]
      simp only [untailed_append later isTail, untailed_of_free later]

/-- Within one segment no tail starts. -/
theorem any_startsTail_of_segment
    {last : Text}
    (segment : last.all (fun c => !isDelimiter c) = true) :
    last.any startsTail = false := by
  refine List.any_eq_false.mpr fun c member starts => ?_
  have point := List.all_eq_true.mp segment c member
  rcases eq_of_startsTail starts with rfl | rfl <;> exact absurd point (by decide)

theorem isDelimiterForm_of_isAscii
    {c : CodePoint}
    (ascii : c.isAscii = true) :
    Unicode.isDelimiterForm c = false := by
  have apart : Unicode.delimiterFormRanges.isApart 0x0 0x7F = true := by decide
  exact Unicode.Ranges.holds_of_isApart apart (Nat.zero_le _)
    (Nat.le_of_lt_succ (of_decide_eq_true ascii))

theorem Place.IsWellFormed.accepted
    {place : Place}
    (wellFormed : place.IsWellFormed) :
    checkBrackets place.authority = .ok () ∧ checkForms place.authority = .ok () := by
  have points := wellFormed.authority
  simp only [List.all_eq_true, Bool.and_eq_true, Bool.not_eq_true', decide_eq_true_eq] at points
  have opening : CodePoint.ofChar '[' ∉ place.authority := fun member =>
    (points _ member).1.2 rfl
  have closing : CodePoint.ofChar ']' ∉ place.authority := fun member =>
    (points _ member).2 rfl
  have forms : place.authority.any Unicode.isDelimiterForm = false :=
    List.any_eq_false.mpr fun c member => by
      simp [isDelimiterForm_of_isAscii (points c member).1.1.1]
  constructor
  · simp [checkBrackets, opening, closing]
  · simp [checkForms, forms]

/-- The authority of a place ends where its directory, or the slash behind it, starts. -/
theorem Place.IsWellFormed.splitAuthority_eq
    {place : Place}
    (wellFormed : place.IsWellFormed)
    (last : Text) :
    splitAuthority (CodePoint.ofChar '/' :: CodePoint.ofChar '/' ::
      (place.authority ++ (place.directory ++ CodePoint.ofChar '/' :: last))) =
        (place.authority, place.directory ++ CodePoint.ofChar '/' :: last) := by
  have points : ∀ c ∈ place.authority, (!isDelimiter c) = true := fun c member => by
    have point := List.all_eq_true.mp wellFormed.authority c member
    simp only [Bool.and_eq_true] at point
    exact point.1.1.2
  have slash : isDelimiter (CodePoint.ofChar '/') = true := by decide
  have stop : (place.directory ++ CodePoint.ofChar '/' :: last).head?.any
      (fun c => !isDelimiter c) = false := by
    have rooted := wellFormed.rooted
    cases spelled : place.directory with
    | nil => simp [slash]
    | cons c rest =>
        rw [spelled] at rooted
        have same : c = CodePoint.ofChar '/' := of_decide_eq_true rooted
        simp [same, slash]
  have whole : place.authority.dropWhile (fun c => !isDelimiter c) = [] :=
    List.dropWhile_eq_nil_iff.mpr points
  simp only [splitAuthority, and_self, ↓reduceIte]
  rw [List.span_eq_takeWhile_dropWhile, Text.takeWhile_append_of_stop stop,
    Text.dropWhile_append_of_stop stop, List.takeWhile_eq_self_iff.mpr points, whole,
    List.nil_append]

theorem Place.IsWellFormed.any_startsTail
    {place : Place}
    (wellFormed : place.IsWellFormed) :
    place.text.any startsTail = false := by
  have scheme : place.scheme.any startsTail = false := by
    refine List.any_eq_false.mpr fun c member starts => ?_
    have point := List.all_eq_true.mp wellFormed.scheme c member
    rcases eq_of_startsTail starts with rfl | rfl <;> exact absurd point (by decide)
  have authority : place.authority.any startsTail = false := by
    apply any_startsTail_of_segment
    refine List.all_eq_true.mpr fun c member => ?_
    have point := List.all_eq_true.mp wellFormed.authority c member
    simp only [Bool.and_eq_true] at point
    exact point.1.1.2
  have marks : (Text.ofString "://").any startsTail = false := by decide
  have slash : (Text.ofString "/").any startsTail = false := by decide
  simp only [text, List.any_append, scheme, authority, marks, slash, wellFormed.directory]
  rfl

/-- The path of a URI is its directory and its last segment. -/
theorem Place.IsWellFormed.path_eq
    {place : Place} {last : Text}
    (wellFormed : place.IsWellFormed)
    (segment : last.all (fun c => !isDelimiter c) = true)
    (clean : last.any isControl = false) :
    path (place.text ++ last) = .ok (place.directory ++ CodePoint.ofChar '/' :: last) := by
  have whole : (place.text ++ last).any isControl = false := by
    rw [List.any_append, wellFormed.clean, clean]
    rfl
  let behind := place.directory ++ CodePoint.ofChar '/' :: last
  -- The text is taken apart from the left: scheme, authority, then the path and nothing behind it.
  have written : place.text ++ last = place.scheme ++ CodePoint.ofChar ':' ::
      (CodePoint.ofChar '/' :: CodePoint.ofChar '/' :: (place.authority ++ behind)) := by
    have marks : Text.ofString "://" =
        [CodePoint.ofChar ':', CodePoint.ofChar '/', CodePoint.ofChar '/'] := rfl
    have slash : Text.ofString "/" = [CodePoint.ofChar '/'] := rfl
    simp [text, marks, slash, behind]
  have colon : CodePoint.ofChar ':' ∉ place.scheme := fun member =>
    absurd (List.all_eq_true.mp wellFormed.scheme _ member) (by decide)
  have dropped : dropScheme (unpadded (place.text ++ last)) =
      CodePoint.ofChar '/' :: CodePoint.ofChar '/' :: (place.authority ++ behind) := by
    have letter := wellFormed.letter
    have points := wellFormed.scheme
    rw [written]
    cases spelled : place.scheme with
    | nil =>
        rw [spelled] at letter
        cases letter
    | cons first others =>
        rw [spelled] at letter points colon
        have start : first.isAsciiLetter = true := letter
        have others_points : others.all isSchemePoint = true := (Bool.and_eq_true_iff.mp points).2
        have noBlank : ¬ first.val ≤ 0x20 := by
          simp only [CodePoint.isAsciiLetter, CodePoint.isAsciiUpper, Bool.or_eq_true,
            Bool.and_eq_true, decide_eq_true_eq] at start
          omega
        rw [unpadded, List.cons_append, List.dropWhile_cons_of_neg (by simpa using noBlank),
          ← List.cons_append, dropScheme, Text.cut_append_mark colon]
        simp [start, others_points]
  have free : (place.directory ++ CodePoint.ofChar '/' :: last).any startsTail = false := by
    have slash : startsTail (CodePoint.ofChar '/') = false := by decide
    rw [List.any_append, List.any_cons, wellFormed.directory, slash,
      any_startsTail_of_segment segment]
    rfl
  rw [Uri.path_eq whole, dropped, wellFormed.splitAuthority_eq]
  simp only [wellFormed.accepted.1, wellFormed.accepted.2, untailed_of_free free]
  rfl

/-- A URI that is one segment without a colon is its own path, blanks at its start apart. -/
theorem path_of_segment
    {last : Text}
    (segment : last.all (fun c => !isDelimiter c) = true)
    (clean : last.any isControl = false)
    (colon : CodePoint.ofChar ':' ∉ last) :
    path last = .ok (unpadded last) := by
  have inside : unpadded last ⊆ last := (List.dropWhile_sublist _).subset
  have alone : splitAuthority (unpadded last) = ([], unpadded last) := by
    unfold splitAuthority
    split
    · rename_i a b rest spelled
      have member : a ∈ last := inside (by rw [spelled]; exact List.mem_cons_self)
      have different : a ≠ CodePoint.ofChar '/' := by
        rintro rfl
        exact absurd (List.all_eq_true.mp segment _ member) (by decide)
      simp [different]
    · rfl
  have free : (unpadded last).any startsTail = false :=
    List.any_eq_false.mpr fun c member =>
      List.any_eq_false.mp (any_startsTail_of_segment segment) c (inside member)
  rw [path_eq clean, dropScheme_of_not_mem (fun member => colon (inside member)), alone]
  simp only [untailed_of_free free]
  rfl

end Uri

/-! ## Names -/

/-- The error about another URI. -/
def NameError.about (uri : Text) : NameError → NameError
  | malformed _ fault => malformed uri fault
  | unusable _ => unusable uri

namespace TypeName

open Uri

/-- What a URI comes to whose last segment has a stem: the stem in Pascal case, if this is not
empty. -/
def ofStem (uri stem : Text) : Except NameError Text :=
  if Pascal.ofText stem = [] then .error (.unusable uri) else .ok (Pascal.ofText stem)

theorem ofUri_of_path
    {uri path : Text}
    (found : Uri.path uri = .ok path) :
    ofUri uri = ofStem uri (stem path) := by
  rw [ofUri, found, ofStem]
  dsimp only
  cases Pascal.ofText (stem path) <;> simp

theorem ofUri_append
    {uri tail : Text}
    (free : uri.any startsTail = false)
    (isTail : IsTail tail) :
    ofUri (uri ++ tail) = (ofUri uri).mapError (NameError.about (uri ++ tail)) := by
  rw [ofUri, path_append free isTail, ofUri]
  cases Uri.path uri with
  | error fault => rfl
  | ok path =>
      dsimp only
      cases Pascal.ofText (stem path) <;> rfl

/-- Blanks at the start of a stem separate nothing. -/
theorem ofText_unpadded (t : Text) : Pascal.ofText (unpadded t) = Pascal.ofText t := by
  induction t with
  | nil =>
      rfl
  | cons c rest inductionHypothesis =>
      by_cases blank : c.val ≤ 0x20
      · have small : ∀ n : Fin 0x21, Unicode.alphanumericRanges.holds n.val = false := by
          decide +kernel
        have separator : Unicode.isAlphanumeric c = false := small ⟨c.val, by omega⟩
        have noDigit : Unicode.isDecimalDigit c = false := by
          rw [Bool.eq_false_iff]
          intro digit
          rw [Unicode.isAlphanumeric_of_isDecimalDigit digit] at separator
          cases separator
        have noLetter : Pascal.isLetter c = false := by simp [Pascal.isLetter, separator]
        have skipped : Pascal.ofText (c :: rest) = Pascal.ofText rest := by
          rw [Pascal.ofText, Pascal.ofText, Pascal.words_of_separator noDigit noLetter]
        rw [skipped, unpadded, List.dropWhile_cons_of_pos (by simpa using blank)]
        exact inductionHypothesis
      · rw [unpadded, List.dropWhile_cons_of_neg (by simpa using blank)]

/-- The extension is cut off at its point, from all of the stem or a part of it. -/
theorem before_of_ending
    {ending : Ending} {t : Text}
    (wellFormed : ending.IsWellFormed)
    (part : t ⊆ ending.stem) :
    (t ++ ending.extension).before (CodePoint.ofChar '.') = t := by
  have noPoint : CodePoint.ofChar '.' ∉ t := fun member =>
    absurd (List.all_eq_true.mp wellFormed.stem _ (part member)) (by decide)
  have pointed := wellFormed.pointed
  cases spelled : ending.extension with
  | nil => rw [List.append_nil, Text.before_of_not_mem noPoint]
  | cons c rest =>
      rw [spelled] at pointed
      have same : c = CodePoint.ofChar '.' := of_decide_eq_true pointed
      rw [same, Text.before_append_mark noPoint]

theorem isSegment_of_ending
    {ending : Ending}
    (wellFormed : ending.IsWellFormed) :
    (ending.stem ++ ending.extension).all (fun c => !isDelimiter c) = true := by
  rw [List.all_append, wellFormed.extension, Bool.and_true]
  refine List.all_eq_true.mpr fun c member => ?_
  have point := List.all_eq_true.mp wellFormed.stem c member
  simp only [Bool.and_eq_true] at point
  exact point.1

theorem ofUri_of_place
    {place : Place} {ending : Ending}
    (located : place.IsWellFormed)
    (wellFormed : ending.IsWellFormed) :
    ofUri (place.text ++ ending.text) = ofStem (place.text ++ ending.text) ending.stem := by
  have segment := isSegment_of_ending wellFormed
  let last := ending.stem ++ ending.extension
  have free : (place.text ++ last).any startsTail = false := by
    rw [List.any_append, located.any_startsTail, any_startsTail_of_segment segment]
    rfl
  have written : place.text ++ ending.text = (place.text ++ last) ++ ending.tail := by
    simp [Ending.text, last]
  have found : Uri.path (place.text ++ ending.text) =
      .ok (place.directory ++ CodePoint.ofChar '/' :: last) := by
    rw [written, path_append free wellFormed.tail, located.path_eq segment wellFormed.clean]
  have noSlash : CodePoint.ofChar '/' ∉ last := fun member =>
    absurd (List.all_eq_true.mp segment _ member) (by decide)
  rw [ofUri_of_path found, stem, Text.afterLast_append_mark noSlash,
    before_of_ending wellFormed (List.Subset.refl _)]

theorem ofUri_of_ending
    {ending : Ending}
    (wellFormed : ending.IsWellFormed)
    (colon : CodePoint.ofChar ':' ∉ ending.stem ++ ending.extension) :
    ofUri ending.text = ofStem ending.text ending.stem := by
  have segment := isSegment_of_ending wellFormed
  have found : Uri.path ending.text = .ok (unpadded (ending.stem ++ ending.extension)) := by
    rw [Ending.text, path_append (any_startsTail_of_segment segment) wellFormed.tail,
      path_of_segment segment wellFormed.clean colon]
  have stop : ending.extension.head?.any (fun c => decide (c.val ≤ 0x20)) = false := by
    have pointed := wellFormed.pointed
    cases spelled : ending.extension with
    | nil => rfl
    | cons c rest =>
        rw [spelled] at pointed
        have same : c = CodePoint.ofChar '.' := of_decide_eq_true pointed
        rw [same]
        rfl
  have padded : unpadded (ending.stem ++ ending.extension) =
      unpadded ending.stem ++ ending.extension :=
    Text.dropWhile_append_of_stop stop ending.stem
  have part : unpadded ending.stem ⊆ ending.stem := (List.dropWhile_sublist _).subset
  have noSlash : CodePoint.ofChar '/' ∉ unpadded (ending.stem ++ ending.extension) :=
    fun member => absurd
      (List.all_eq_true.mp segment _ ((List.dropWhile_sublist _).subset member)) (by decide)
  rw [ofUri_of_path found, stem, Text.afterLast_of_not_mem noSlash, padded,
    before_of_ending wellFormed part, ofStem, ofStem, ofText_unpadded]

theorem resolve_of_undeclared
    {types : TypeSet} {format : Option StringFormat} {ref className : Text}
    (noText : types.contains .string = false)
    (undeclared : types.fieldType? = none)
    (named : ofUri ref = .ok className) :
    resolve types format ref = .ok (.reference className) := by
  have filled : ref.isEmpty = false := by
    cases ref with
    | nil => cases named
    | cons c rest => rfl
  rw [resolve, noText, undeclared, filled, named]
  rfl

/-- The type name of a URI depends on the stem of its last segment alone: whatever scheme, authority,
directories, extension, query and fragment are around the stem, the name is the stem in Pascal case.
A query or a fragment changes neither the name nor the error of any URI, so a reference with one gives
the name of the class it refers to. -/
theorem ofUri_depends_on_stem :
    (∀ ending : Ending, ending.IsWellFormed →
      (∀ place : Place, place.IsWellFormed →
        ofUri (place.text ++ ending.text) = ofStem (place.text ++ ending.text) ending.stem) ∧
      (CodePoint.ofChar ':' ∉ ending.stem ++ ending.extension →
        ofUri ending.text = ofStem ending.text ending.stem)) ∧
    (∀ uri tail, uri.any startsTail = false → IsTail tail →
      ofUri (uri ++ tail) = (ofUri uri).mapError (NameError.about (uri ++ tail))) ∧
    (∀ options schema d tail, Declaration.ofSchema options schema = .ok d →
      schema.id.any startsTail = false → IsTail tail →
        ∀ types format, types.contains .string = false → types.fieldType? = none →
          resolve types format (schema.id ++ tail) = .ok (.reference d.className)) := by
  refine ⟨fun ending wellFormed => ⟨fun place located => ?_, fun colon => ?_⟩, ?_, ?_⟩
  · exact ofUri_of_place located wellFormed
  · exact ofUri_of_ending wellFormed colon
  · exact fun uri tail free isTail => ofUri_append free isTail
  · intro options schema d tail declared free isTail types format noText undeclared
    obtain ⟨-, named, -, -⟩ := Declaration.ofSchema_eq_ok_iff.mp declared
    apply resolve_of_undeclared noText undeclared
    rw [ofUri_append free isTail, named]
    rfl

/-- A directory with a point in its name, on a host with a port. -/
def profilePlace : Place :=
  ⟨.ofString "https", .ofString "me@example.com:8080", .ofString "/schemas/v1.2"⟩

/-- A name of two words, with two extensions, a query and a fragment. -/
def profileEnding : Ending :=
  ⟨.ofString "user_profile", .ofString ".schema.json", .ofString "?v=2/3#a.b"⟩

/-- A schema that is named by a URI of one segment. -/
def profileSchema : Schema :=
  { id := .ofString "user_profile.json",
    properties := [(.ofString "name", { types := .single .string })] }

theorem ofUri_depends_on_stem_profile :
    profilePlace.IsWellFormed ∧ profileEnding.IsWellFormed ∧
      ofUri (profilePlace.text ++ profileEnding.text) = .ok (.ofString "UserProfile") ∧
      ofUri profileEnding.text = .ok (.ofString "UserProfile") ∧
      ofUri (.ofString "//[::1/profile.json" ++ .ofString "#]") =
        .error (.malformed (.ofString "//[::1/profile.json#]") .invalidBrackets) ∧
      resolve .empty none (profileSchema.id ++ .ofString "#name") =
        .ok (.reference (.ofString "UserProfile")) := by
  obtain ⟨named, tailed, referred⟩ := ofUri_depends_on_stem
  have located : profilePlace.IsWellFormed := by constructor <;> decide
  have isTail : IsTail profileEnding.tail := by constructor <;> decide
  have wellFormed : profileEnding.IsWellFormed := by
    refine ⟨?_, ?_, ?_, ?_, isTail⟩ <;> decide
  have profile : ofStem (profilePlace.text ++ profileEnding.text) profileEnding.stem =
      .ok (.ofString "UserProfile") := by decide +kernel
  have relative : ofStem profileEnding.text profileEnding.stem =
      .ok (.ofString "UserProfile") := by decide +kernel
  refine ⟨located, wellFormed, ?_, ?_, ?_, ?_⟩
  · rw [(named profileEnding wellFormed).1 profilePlace located, profile]
  · rw [(named profileEnding wellFormed).2 (by decide), relative]
  · have rejected : ofUri (.ofString "//[::1/profile.json") =
        .error (.malformed (.ofString "//[::1/profile.json") .invalidBrackets) := by rfl
    rw [tailed _ _ (by decide) (by constructor <;> decide), rejected]
    rfl
  · have className : ofUri profileSchema.id = .ok (.ofString "UserProfile") := by rfl
    have declares : Declaration.Declares ⟨false, true⟩ profileSchema := by
      refine ⟨by decide, ⟨_, className⟩, fun p member => ?_, by decide⟩
      rw [List.mem_singleton.mp member]
      exact ⟨.builtin .text, by decide⟩
    obtain ⟨d, declared⟩ := Declaration.exists_ofSchema_iff.mpr declares
    obtain ⟨-, named', -, -⟩ := Declaration.ofSchema_eq_ok_iff.mp declared
    have referred' := referred _ _ d (.ofString "#name") declared (by decide)
      (by constructor <;> decide) .empty none (by decide) (by decide)
    rw [referred', Except.ok.inj (named'.symm.trans className)]

end TypeName
end RecordGen
