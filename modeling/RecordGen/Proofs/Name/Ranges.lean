import RecordGen.Proofs.Text.Encoding
import RecordGen.Unicode.Alphanumeric
import RecordGen.Unicode.DecimalDigit
import RecordGen.Unicode.Upper
import Mathlib.Data.List.Basic

/-!
# Tables of code points

What is said of all letters, all digits or all upper-case forms is checked range by range. A set of
code points that no range of the tables meets has no part in a name.
-/

namespace RecordGen

open CodePoint

namespace Unicode

/-! ## Ranges -/

namespace Ranges

variable {ranges others : Ranges} {first last n : Nat} {c d : CodePoint}

theorem exists_of_holds
    (held : ranges.holds n = true) :
    ∃ range ∈ ranges, range.1 ≤ n ∧ n ≤ range.2 := by
  induction ranges with
  | nil =>
      cases held
  | cons range rest inductionHypothesis =>
      unfold holds at held
      split_ifs at held with below within
      · exact ⟨range, List.mem_cons_self, Nat.not_lt.mp below, within⟩
      · obtain ⟨other, member, around⟩ := inductionHypothesis held
        exact ⟨other, List.mem_cons_of_mem range member, around⟩

/-- One range holds all numbers from the first to the last. -/
def holdsAll : Ranges → Nat → Nat → Bool
  | [], _, _ => false
  | range :: rest, first, last =>
    if first < range.1 then false
    else if first ≤ range.2 then last ≤ range.2
    else holdsAll rest first last

theorem holds_of_holdsAll
    (all : ranges.holdsAll first last = true)
    (lower : first ≤ n)
    (upper : n ≤ last) :
    ranges.holds n = true := by
  induction ranges with
  | nil =>
      cases all
  | cons range rest inductionHypothesis =>
      unfold holdsAll at all
      unfold holds
      split_ifs at all with below within
      · have inside : n ≤ range.2 := Nat.le_trans upper (of_decide_eq_true all)
        rw [if_neg (by omega), if_pos inside]
      · have later := inductionHypothesis all
        rw [if_neg (by omega), if_neg (by omega), later]

/-- The ranges without those at their start that end before a number. -/
def dropBelow (ranges : Ranges) (first : Nat) : Ranges :=
  ranges.dropWhile fun range => Nat.ble range.1 first && Nat.blt range.2 first

theorem holds_dropBelow
    (lower : first ≤ n) :
    (ranges.dropBelow first).holds n = ranges.holds n := by
  induction ranges with
  | nil => rfl
  | cons range rest inductionHypothesis =>
      rw [dropBelow, List.dropWhile_cons]
      split_ifs with below
      · simp only [Bool.and_eq_true, Nat.ble_eq, Nat.blt_eq] at below
        obtain ⟨start, stop⟩ := range
        rw [← dropBelow, inductionHypothesis, holds, if_neg (by omega), if_neg (by omega)]
      · rfl

/-- Ranges that ascend from a number on are inside of others, each in one. A sweep goes over both
lists. -/
def includesFrom : Ranges → Nat → Ranges → Bool
  | _, _, [] => true
  | ranges, first, range :: rest =>
    let behind := ranges.dropBelow range.1
    Nat.ble first range.1 && behind.holdsAll range.1 range.2 && behind.includesFrom range.1 rest

theorem holds_of_includesFrom
    {range : Nat × Nat}
    (included : ranges.includesFrom first others = true)
    (member : range ∈ others)
    (lower : range.1 ≤ n)
    (upper : n ≤ range.2) :
    first ≤ range.1 ∧ ranges.holds n = true := by
  induction others generalizing ranges first with
  | nil => cases member
  | cons head rest inductionHypothesis =>
      simp only [includesFrom, Bool.and_eq_true, Nat.ble_eq] at included
      obtain ⟨⟨ascending, all⟩, later⟩ := included
      rcases List.mem_cons.mp member with rfl | inRest
      · have held := holds_of_holdsAll all lower upper
        rw [holds_dropBelow lower] at held
        exact ⟨ascending, held⟩
      · obtain ⟨above, held⟩ := inductionHypothesis later inRest
        rw [holds_dropBelow (by omega)] at held
        exact ⟨by omega, held⟩

/-- Ascending ranges are inside of others. -/
def includes (ranges others : Ranges) : Bool := ranges.includesFrom 0 others

theorem contains_of_includes
    (included : ranges.includes others = true)
    (held : others.contains c = true) :
    ranges.contains c = true := by
  obtain ⟨range, member, lower, upper⟩ := exists_of_holds held
  exact (holds_of_includesFrom included member lower upper).2

/-- No range meets the numbers from the first to the last. -/
def isApart (ranges : Ranges) (first last : Nat) : Bool :=
  ranges.all fun range => Nat.blt range.2 first || Nat.blt last range.1

theorem holds_of_isApart
    (apart : ranges.isApart first last = true)
    (lower : first ≤ n)
    (upper : n ≤ last) :
    ranges.holds n = false := by
  rw [Bool.eq_false_iff]
  intro held
  obtain ⟨range, member, lower', upper'⟩ := exists_of_holds held
  have outside := List.all_eq_true.mp apart range member
  simp only [Bool.or_eq_true, Nat.blt_eq] at outside
  omega

theorem outside_of_holdsAll
    (outside : ranges.contains c = false)
    (all : ranges.holdsAll first last = true) :
    c.val < first ∨ last < c.val := by
  by_contra inside
  obtain ⟨lower, upper⟩ := not_or.mp inside
  have held := holds_of_holdsAll all (Nat.not_lt.mp lower) (Nat.not_lt.mp upper)
  rw [contains, held] at outside
  cases outside

end Ranges

/-! ## Digits -/

theorem isAlphanumeric_of_isDecimalDigit
    {c : CodePoint}
    (digit : isDecimalDigit c = true) :
    isAlphanumeric c = true := by
  have included : alphanumericRanges.includes decimalDigitRanges = true := by decide +kernel
  exact Ranges.contains_of_includes included digit

/-! ## Upper-case forms -/

theorem mem_upperExpansions
    {n : Nat} {points : List Nat}
    (found : upperExpansions.lookup n = some points) :
    (n, points) ∈ upperExpansions := by
  obtain ⟨before, after, table, -⟩ := List.lookup_eq_some_iff.mp found
  rw [table]
  exact List.mem_append_right _ List.mem_cons_self

/-- The ranges hold no part of an upper-case form that the tables give. -/
structure Ranges.AvoidsCapitals (ranges : Ranges) : Prop where
  runs : (upperRuns.all fun run =>
    ranges.isApart run.capital (run.capital + (run.last - run.first))) = true
  expansions : (upperExpansions.all fun entry => entry.2.all fun n =>
    ranges.isApart (CodePoint.ofNat n).val (CodePoint.ofNat n).val) = true

/-- The ranges hold neither a letter or digit nor a part of the upper-case form of one. -/
structure Ranges.AvoidsNames (ranges : Ranges) : Prop extends ranges.AvoidsCapitals where
  points : (alphanumericRanges.all fun range => ranges.isApart range.1 range.2) = true

namespace Ranges

variable {ranges : Ranges} {c d : CodePoint}

theorem AvoidsCapitals.contains_image
    {run : CaseRun} {n : Nat}
    (avoids : ranges.AvoidsCapitals)
    (member : run ∈ upperRuns)
    (covered : run.covers n = true) :
    ranges.contains (CodePoint.ofNat (run.image n)) = false := by
  have bounded : (upperRuns.all fun run =>
      Nat.blt (run.capital + (run.last - run.first)) 0x110000) = true := by decide +kernel
  have small := List.all_eq_true.mp bounded run member
  simp only [Nat.blt_eq] at small
  simp only [CaseRun.covers, Bool.and_eq_true, decide_eq_true_eq] at covered
  have apart := List.all_eq_true.mp avoids.runs run member
  unfold contains CaseRun.image
  rw [val_ofNat (by omega)]
  exact holds_of_isApart apart (by omega) (by omega)

/-- An upper-case form is avoided, or it is the code point itself, which is then no small ASCII
letter. -/
theorem AvoidsCapitals.contains_of_mem_upper
    (avoids : ranges.AvoidsCapitals)
    (member : d ∈ upper c) :
    ranges.contains d = false ∨ d = c ∧ ¬ (0x61 ≤ c.val ∧ c.val ≤ 0x7A) := by
  unfold upper at member
  split_ifs at member with ascii
  · rw [List.mem_singleton.mp member]
    unfold asciiUpper
    split_ifs with small
    · -- The first run of the table maps the small ASCII letters.
      have first : (⟨0x61, 0x7A, 1, 0x41⟩ : CaseRun) ∈ upperRuns := List.mem_cons_self
      have apart : ranges.isApart 0x41 0x5A = true := List.all_eq_true.mp avoids.runs _ first
      simp only [Bool.and_eq_true, decide_eq_true_eq] at small
      left
      unfold contains
      rw [val_ofNat (by omega)]
      exact holds_of_isApart apart (by omega) (by omega)
    · exact Or.inr ⟨rfl, by simpa using small⟩
  · split at member
    · rename_i points found
      obtain ⟨n, inside, rfl⟩ := List.mem_map.mp member
      have apart := List.all_eq_true.mp avoids.expansions _ (mem_upperExpansions found)
      exact Or.inl (holds_of_isApart (List.all_eq_true.mp apart n inside) (Nat.le_refl _)
        (Nat.le_refl _))
    · split at member
      · rename_i run found
        have covered := List.find?_some found
        rw [List.mem_singleton.mp member]
        exact Or.inl (avoids.contains_image (List.mem_of_find?_eq_some found) covered)
      · exact Or.inr ⟨List.mem_singleton.mp member, by omega⟩

theorem AvoidsNames.contains_of_isAlphanumeric
    (avoids : ranges.AvoidsNames)
    (alphanumeric : isAlphanumeric c = true) :
    ranges.contains c = false := by
  obtain ⟨range, member, lower, upper⟩ := exists_of_holds alphanumeric
  exact holds_of_isApart (List.all_eq_true.mp avoids.points range member) lower upper

theorem AvoidsNames.contains_of_mem_upper
    (avoids : ranges.AvoidsNames)
    (alphanumeric : isAlphanumeric c = true)
    (member : d ∈ upper c) :
    ranges.contains d = false := by
  rcases avoids.toAvoidsCapitals.contains_of_mem_upper member with apart | ⟨rfl, -⟩
  · exact apart
  · exact avoids.contains_of_isAlphanumeric alphanumeric

end Ranges

end Unicode

end RecordGen
