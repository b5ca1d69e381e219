import RecordGen.Json.Value
import Mathlib.Tactic.SplitIfs

/-!
# Texts on one line

Messages show numbers, texts and values of documents on one line: digits are no line breaks, and a
quoted text spells its own.
-/

namespace RecordGen

/-- The text has no line feed. -/
def Text.IsOneLine (t : Text) : Prop := CodePoint.lineFeed ∉ t

instance (t : Text) : Decidable t.IsOneLine := inferInstanceAs (Decidable (_ ∉ _))

namespace Text

variable {s t : Text}

@[simp]
theorem isOneLine_nil : IsOneLine [] := List.not_mem_nil

@[simp]
theorem isOneLine_append : IsOneLine (s ++ t) ↔ s.IsOneLine ∧ t.IsOneLine := by
  simp [IsOneLine, not_or]

@[simp]
theorem isOneLine_cons {c : CodePoint} : IsOneLine (c :: t) ↔ CodePoint.lineFeed ≠ c ∧ t.IsOneLine := by
  simp [IsOneLine, not_or]

theorem isOneLine_of_subset
    (whole : t.IsOneLine)
    (part : s ⊆ t) :
    s.IsOneLine :=
  fun member => whole (part member)

theorem isOneLine_flatMap
    {f : CodePoint → Text}
    (parts : ∀ c ∈ t, (f c).IsOneLine) :
    IsOneLine (t.flatMap f) := by
  intro member
  obtain ⟨c, inside, found⟩ := List.mem_flatMap.mp member
  exact parts c inside found

/-! ## Numbers -/

theorem lineFeed_ne_ofChar
    {c : Char}
    (noBreak : c ≠ '\n') :
    CodePoint.lineFeed ≠ CodePoint.ofChar c := by
  intro same
  have numbers : (CodePoint.lineFeed).val = (CodePoint.ofChar c).val := by rw [same]
  have spelled : c.toNat = ('\n' : Char).toNat := numbers.symm
  exact noBreak (Char.toNat_inj.mp spelled)

theorem isOneLine_map_ofChar
    {chars : List Char}
    (noBreak : '\n' ∉ chars) :
    IsOneLine (chars.map CodePoint.ofChar) := by
  intro member
  obtain ⟨c, inside, same⟩ := List.mem_map.mp member
  refine lineFeed_ne_ofChar ?_ same.symm
  rintro rfl
  exact noBreak inside

/-- A literal is on one line if none of its characters breaks the line. -/
theorem isOneLine_literal
    {chars : List Char}
    (noBreak : '\n' ∉ chars) :
    (ofString (String.ofList chars)).IsOneLine := by
  rw [ofString_ofList]
  exact isOneLine_map_ofChar noBreak

/-- What stands between two literals is on one line with them if it is on one itself. -/
theorem isOneLine_between
    {before after : List Char}
    (noBreak : '\n' ∉ before)
    (shown : t.IsOneLine)
    (noBreak' : '\n' ∉ after) :
    (ofString (String.ofList before) ++ t ++ ofString (String.ofList after)).IsOneLine := by
  rw [isOneLine_append, isOneLine_append]
  exact ⟨⟨isOneLine_literal noBreak, shown⟩, isOneLine_literal noBreak'⟩

theorem lineBreak_not_mem_toDigitsCore
    {base fuel n : Nat} {digits : List Char}
    (noBreak : '\n' ∉ digits) :
    '\n' ∉ Nat.toDigitsCore base fuel n digits := by
  induction fuel generalizing n digits with
  | zero =>
      exact noBreak
  | succ fuel inductionHypothesis =>
      have digit : '\n' ≠ (n % base).digitChar := (Nat.digitChar_ne '\n' (by decide)).symm
      have longer : '\n' ∉ (n % base).digitChar :: digits := by
        rw [List.mem_cons, not_or]
        exact ⟨digit, noBreak⟩
      rw [Nat.toDigitsCore]
      split
      · exact longer
      · exact inductionHypothesis longer

theorem isOneLine_toDigits (base n : Nat) :
    IsOneLine ((Nat.toDigits base n).map CodePoint.ofChar) :=
  isOneLine_map_ofChar (lineBreak_not_mem_toDigitsCore List.not_mem_nil)

@[simp]
theorem isOneLine_ofNat (n : Nat) : (Text.ofNat n).IsOneLine := isOneLine_toDigits 10 n

@[simp]
theorem isOneLine_ofInt (i : Int) : (Text.ofInt i).IsOneLine := by
  have minus : CodePoint.lineFeed ≠ CodePoint.ofChar '-' := by decide
  cases i <;> simp [Text.ofInt, minus]

@[simp]
theorem isOneLine_hex (width n : Nat) : (Text.hex width n).IsOneLine := by
  rw [hex, List.map_append, isOneLine_append]
  refine ⟨isOneLine_map_ofChar ?_, isOneLine_toDigits 16 n⟩
  intro member
  exact absurd (List.eq_of_mem_replicate member) (by decide)

/-! ## Quoted texts -/

theorem isOneLine_quotedPoint
    {mark : CodePoint}
    (noBreak : CodePoint.lineFeed ≠ mark)
    (c : CodePoint) :
    (quotedPoint mark c).IsOneLine := by
  have backslash : CodePoint.lineFeed ≠ CodePoint.ofChar '\\' := by decide
  unfold quotedPoint
  dsimp only
  split_ifs with special isBreak isReturn isTab isPrintable
  · have noBreak' : CodePoint.lineFeed ≠ c := by
      rcases special with rfl | rfl
      · exact noBreak
      · exact backslash
    simp [backslash, noBreak']
  · decide
  · decide
  · decide
  · have noBreak' : CodePoint.lineFeed ≠ c := by
      rintro rfl
      exact isBreak rfl
    simp [noBreak']
  · exact isOneLine_append.mpr ⟨by decide, isOneLine_hex _ _⟩
  · exact isOneLine_append.mpr ⟨by decide, isOneLine_hex _ _⟩
  · exact isOneLine_append.mpr ⟨by decide, isOneLine_hex _ _⟩

/-- A quoted text is on one line, whatever the text. -/
@[simp]
theorem isOneLine_quoted (t : Text) : t.quoted.IsOneLine := by
  have noBreak : CodePoint.lineFeed ≠ quoteMark t := by
    unfold quoteMark
    dsimp only
    split_ifs <;> decide
  have points := isOneLine_flatMap fun c (_ : c ∈ t) => isOneLine_quotedPoint noBreak c
  simp [quoted, noBreak, points]

end Text

/-! ## Values -/

theorem NumberStyle.isOneLine_showDecimal (style : NumberStyle) (d : Decimal) :
    (style.showDecimal d).IsOneLine := by
  have digits := Text.isOneLine_ofNat d.digits
  have start (n : Nat) : Text.IsOneLine ((Text.ofNat d.digits).take n) :=
    Text.isOneLine_of_subset digits (List.take_subset n _)
  have rest (n : Nat) : Text.IsOneLine ((Text.ofNat d.digits).drop n) :=
    Text.isOneLine_of_subset digits (List.drop_subset n _)
  have zeros (n : Nat) : Text.IsOneLine (List.replicate n (CodePoint.ofChar '0')) := by
    intro member
    exact absurd (List.eq_of_mem_replicate member) (by decide)
  have point : (Text.ofChar '.').IsOneLine := by decide
  have mark : (Text.ofChar 'e').IsOneLine := by decide
  have minus : (Text.ofChar '-').IsOneLine := by decide
  have plus : (Text.ofChar '+').IsOneLine := by decide
  unfold showDecimal
  dsimp only
  split_ifs <;> simp only [Text.isOneLine_append, digits, start, rest, zeros, point, mark, minus, plus,
    Text.isOneLine_nil, Text.isOneLine_ofNat, and_self]

theorem Binary64.isOneLine_text (x : Binary64) : x.text.IsOneLine := by
  cases x with
  | nan => decide
  | infinite negative => cases negative <;> decide
  | finite negative m q =>
      have minus : (Text.ofChar '-').IsOneLine := by decide
      have zero : (Text.ofString "0.0").IsOneLine := by decide
      have decimal := NumberStyle.isOneLine_showDecimal .plain (shortest m q)
      rw [text, Text.isOneLine_append]
      constructor <;> split_ifs <;> simp [minus, zero, decimal]

namespace Json.Value

theorem isOneLine_kindName (value : Value) : value.kindName.IsOneLine := by
  cases value <;> simp only [kindName] <;> decide

mutual

/-- A value is shown on one line. -/
theorem isOneLine_shown : (value : Value) → value.shown.IsOneLine
  | null => by decide
  | bool b => by cases b <;> decide
  | int i => Text.isOneLine_ofInt i
  | float x => x.isOneLine_text
  | str t => Text.isOneLine_quoted t
  | arr items => by
    have inner := isOneLine_shownItems items
    have brackets : (Text.ofString "[").IsOneLine ∧ (Text.ofString "]").IsOneLine := by decide
    simp only [shown, Text.isOneLine_append, brackets, inner, and_self]
  | obj members => by
    have inner := isOneLine_shownMembers members
    have braces : (Text.ofString "\x7b").IsOneLine ∧ (Text.ofString "\x7d").IsOneLine := by decide
    simp only [shown, Text.isOneLine_append, braces, inner, and_self]

theorem isOneLine_shownItems : (items : List Value) → Text.IsOneLine (shownItems items)
  | [] => by decide
  | [item] => isOneLine_shown item
  | item :: next :: rest => by
    have first := isOneLine_shown item
    have others := isOneLine_shownItems (next :: rest)
    have comma : (Text.ofString ", ").IsOneLine := by decide
    simp only [shownItems, Text.isOneLine_append, first, comma, others, and_self]

theorem isOneLine_shownMembers :
    (members : List (Text × Value)) → Text.IsOneLine (shownMembers members)
  | [] => by decide
  | [(name, value)] => by
    have own := isOneLine_shown value
    have colon : (Text.ofString ": ").IsOneLine := by decide
    simp only [shownMembers, Text.isOneLine_append, Text.isOneLine_quoted, colon, own, and_self]
  | (name, value) :: next :: rest => by
    have own := isOneLine_shown value
    have others := isOneLine_shownMembers (next :: rest)
    have marks : (Text.ofString ": ").IsOneLine ∧ (Text.ofString ", ").IsOneLine := by decide
    simp only [shownMembers, Text.isOneLine_append, Text.isOneLine_quoted, marks, own, others, and_self]

end

end Json.Value
end RecordGen
