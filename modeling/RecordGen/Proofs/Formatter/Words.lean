import RecordGen.Formatter.Process

/-!
# Words of a command

The words of a command are handed to a process, or the call breaks off before there is one. Plain words
get there: texts that have an encoding and no null character, and that are not too long.
-/

namespace RecordGen.Formatter

variable {value : Json.Value} {t : Text} {c : Call} {process : Process} {calls : List Call}

/-- The octets of a word. A surrogate that stands for an octet is that octet. -/
def wordOctets (t : Text) : Bytes :=
  t.flatMap fun c =>
    if isEscapedOctet c then [UInt8.ofNat (c.val - 0xDC00)] else Utf8.encodePoint c

/-- The number of octets that a word may have. -/
def wordLimit : Nat := 131071

/-- A word that a process can be handed. -/
structure IsPlainWord (value : Json.Value) : Prop where
  handed : wordFault? value = none
  short : ∀ t, value = .str t → (wordOctets t).length ≤ wordLimit

def Call.IsPlain (c : Call) : Prop := ∀ word ∈ c.command, IsPlainWord word

theorem exists_text_of_wordFault? (handed : wordFault? value = none) : ∃ t, value = .str t := by
  cases value with
  | str t => exact ⟨t, rfl⟩
  | _ => cases handed

/-! ## Processes -/

theorem outcome_ne_word (ending : Ending) (fault : WordFault) :
    ending.outcome ≠ .broken (.word fault) := by
  unfold Ending.outcome
  split
  · split
    · simp
    · split <;> simp
  all_goals simp [Outcome.forbidden]

theorem wordFault?_of_isPlain (plain : c.IsPlain) : c.wordFault? = none :=
  List.findSome?_eq_none_iff.mpr fun word member => (plain word member).handed

/-- A call of plain words is answered by the process. -/
theorem subprocess_of_isPlain (plain : c.IsPlain) :
    subprocess process calls c = (process calls c).outcome := by
  rw [subprocess, wordFault?_of_isPlain plain]

/-! ## Plain words -/

theorem length_wordOctets
    (ascii : ∀ c ∈ t, 0 < c.val ∧ c.val < 0x80) :
    (wordOctets t).length = t.length := by
  induction t with
  | nil =>
      rfl
  | cons c rest inductionHypothesis =>
      obtain ⟨⟨-, small⟩, others⟩ := List.forall_mem_cons.mp ascii
      have notEscaped : isEscapedOctet c = false := by
        simp only [isEscapedOctet, Bool.and_eq_false_iff, decide_eq_false_iff_not]
        omega
      have single : (Utf8.encodePoint c).length = 1 := by
        simp [Utf8.encodePoint, small]
      have rest_eq := inductionHypothesis others
      rw [wordOctets] at rest_eq ⊢
      rw [List.flatMap_cons, List.length_append, rest_eq, notEscaped, if_neg (by decide), single,
        List.length_cons, Nat.add_comm]

theorem isPlainWord_of_ascii
    (ascii : ∀ c ∈ t, 0 < c.val ∧ c.val < 0x80)
    (short : t.length ≤ wordLimit) :
    IsPlainWord (.str t) := by
  have encodable : (t.any fun c => c.isSurrogate && !isEscapedOctet c) = false := by
    refine List.any_eq_false.mpr fun c member => ?_
    have small := (ascii c member).2
    have notSurrogate : c.isSurrogate = false := by
      simp only [CodePoint.isSurrogate, Bool.and_eq_false_iff, decide_eq_false_iff_not]
      omega
    simp [notSurrogate]
  have noNull : (t.any fun c => c.val = 0) = false := by
    refine List.any_eq_false.mpr fun c member => ?_
    have positive := (ascii c member).1
    simp only [decide_eq_true_eq]
    omega
  refine ⟨?_, ?_⟩
  · rw [wordFault?, encodable, noNull]
    rfl
  · rintro t ⟨⟩
    rw [length_wordOctets ascii]
    exact short

/-- A short literal of ASCII characters is a plain word. -/
theorem isPlainWord_literal
    {chars : List Char}
    (ascii : (chars.all fun c => 0 < c.toNat && c.toNat < 0x80) = true)
    (short : chars.length ≤ wordLimit) :
    IsPlainWord (.str (.ofString (String.ofList chars))) := by
  rw [Text.ofString_ofList]
  refine isPlainWord_of_ascii (fun c member => ?_) (by rwa [List.length_map])
  obtain ⟨character, inChars, rfl⟩ := List.mem_map.mp member
  have own := List.all_eq_true.mp ascii character inChars
  simp only [Bool.and_eq_true, decide_eq_true_eq] at own
  exact own

theorem digit_of_mem_ofNat
    {n : Nat} {c : CodePoint}
    (member : c ∈ Text.ofNat n) :
    0x30 ≤ c.val ∧ c.val ≤ 0x39 := by
  obtain ⟨digit, inDigits, rfl⟩ := List.mem_map.mp member
  have isDigit := Nat.isDigit_of_mem_toDigits (by decide) (by decide) inDigits
  simp only [Char.isDigit, Bool.and_eq_true, decide_eq_true_eq] at isDigit
  exact isDigit

theorem length_ofNat_le
    {n digits : Nat}
    (few : n < Nat.pow 10 digits)
    (positive : 0 < digits) :
    (Text.ofNat n).length ≤ digits := by
  rw [Text.ofNat, List.length_map]
  exact (Nat.length_toDigits_le_iff (by decide) positive).mpr few

/-- An integer that can be spelled is a plain word. -/
theorem isPlainWord_ofInt
    {i : Int}
    (spelled : (Json.Value.int i).isSpellable = true) :
    IsPlainWord (.str (Text.ofInt i)) := by
  have bound (n : Nat) (few : n < Nat.pow 10 Json.digitLimit) :
      (Text.ofNat n).length ≤ Json.digitLimit :=
    length_ofNat_le few (by decide)
  have ascii (n : Nat) (c : CodePoint) (member : c ∈ Text.ofNat n) : 0 < c.val ∧ c.val < 0x80 := by
    have digit := digit_of_mem_ofNat member
    omega
  have limits : Json.digitLimit + 1 ≤ wordLimit := by decide
  rw [Json.Value.isSpellable, decide_eq_true_eq] at spelled
  cases i with
  | ofNat n =>
      exact isPlainWord_of_ascii (ascii n) (by have few := bound n spelled; rw [Text.ofInt]; omega)
  | negSucc n =>
      refine isPlainWord_of_ascii (fun c member => ?_) ?_
      · rcases List.mem_cons.mp member with rfl | digit
        · decide
        · exact ascii _ c digit
      · have few := bound (n + 1) spelled
        rw [Text.ofInt, List.length_cons]
        omega

end RecordGen.Formatter
