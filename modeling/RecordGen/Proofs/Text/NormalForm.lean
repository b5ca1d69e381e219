import RecordGen.Unicode.Normalization

/-!
# Texts in normal form

A code point that stands for nothing else, is no mark, and closes no composite stays as it is in every
text that has only such code points. Those of ASCII are of this kind, since all tables start behind
them.
-/

namespace RecordGen.Unicode

/-- Normalization of a text with only such code points leaves this one alone. -/
structure IsStable (n : Nat) : Prop where
  whole : compositeParts? n = none
  literal : compatibilityForm? n = none
  starter : combiningClass n = 0
  apart : ∀ first, composite? first n = none

variable {n : Nat} {points : List Nat}

/-! ## Stable code points -/

theorem IsStable.decomposed_eq
    (stable : IsStable n)
    (depth : Nat) :
    decomposed depth n = [n] := by
  cases depth with
  | zero => rfl
  | succ depth => simp only [decomposed, stable.whole, stable.literal, Option.getD_none]

theorem flatMap_decomposed_of_isStable
    (stable : ∀ n ∈ points, IsStable n)
    (depth : Nat) :
    points.flatMap (decomposed depth) = points := by
  induction points with
  | nil => rfl
  | cons n rest inductionHypothesis =>
      obtain ⟨own, others⟩ := List.forall_mem_cons.mp stable
      rw [List.flatMap_cons, own.decomposed_eq, inductionHypothesis others]
      rfl

theorem canonicalOrder_of_isStable
    (stable : ∀ n ∈ points, IsStable n) :
    canonicalOrder points = points := by
  induction points with
  | nil => rfl
  | cons n rest inductionHypothesis =>
      obtain ⟨-, others⟩ := List.forall_mem_cons.mp stable
      change insertMark n (canonicalOrder rest) = n :: rest
      rw [inductionHypothesis others]
      cases rest with
      | nil => rfl
      | cons m more =>
          have starter := (others m List.mem_cons_self).starter
          have stays : ¬ (0 < combiningClass m ∧ combiningClass m < combiningClass n) := by
            rw [starter]
            omega
          rw [insertMark, if_neg stays]

theorem composeBehind_of_isStable
    (stable : ∀ n ∈ points, IsStable n)
    (starter : Nat) :
    composeBehind starter [] points = starter :: points := by
  induction points generalizing starter with
  | nil => rfl
  | cons n rest inductionHypothesis =>
      obtain ⟨own, others⟩ := List.forall_mem_cons.mp stable
      simp only [composeBehind, own.apart starter, ite_self, own.starter, ↓reduceIte,
        inductionHypothesis others n, List.cons_append, List.nil_append]

theorem compose_of_isStable
    (stable : ∀ n ∈ points, IsStable n) :
    compose points = points := by
  cases points with
  | nil => rfl
  | cons n rest =>
      obtain ⟨own, others⟩ := List.forall_mem_cons.mp stable
      rw [compose, own.starter, if_pos rfl, composeBehind_of_isStable others]

theorem map_ofNat_val (t : Text) : (t.map (·.val)).map CodePoint.ofNat = t := by
  rw [List.map_map]
  refine List.map_id'' (fun c => ?_) t
  simp [CodePoint.ofNat]

/-- A text of stable code points is its own normal form. -/
theorem normalForm_of_isStable
    {t : Text}
    (stable : ∀ c ∈ t, IsStable c.val) :
    normalForm t = t := by
  have points : ∀ n ∈ t.map (·.val), IsStable n := by
    intro n member
    obtain ⟨c, inside, rfl⟩ := List.mem_map.mp member
    exact stable c inside
  rw [normalForm, flatMap_decomposed_of_isStable points, canonicalOrder_of_isStable points,
    compose_of_isStable points, map_ofNat_val]

/-! ## ASCII -/

theorem compatibilityForm?_of_lt
    (ascii : n < 0x80) :
    compatibilityForm? n = none := by
  have runs : formRuns.all (0x80 ≤ ·.first) = true := by decide +kernel
  have forms : (letterForms ++ presentationForms ++ supplementaryForms).all (0x80 ≤ ·.1) = true := by
    decide +kernel
  have blocks : ideographBlocks.all (0x80 ≤ ·.1) = true := by decide +kernel
  simp only [List.all_eq_true, decide_eq_true_eq] at runs forms blocks
  have noRun : formRuns.find? (·.covers n) = none := by
    refine List.find?_eq_none.mpr fun run member => ?_
    have behind := runs run member
    simp only [FormRun.covers, Bool.and_eq_true, decide_eq_true_eq]
    omega
  have noForm : (letterForms ++ presentationForms ++ supplementaryForms).lookup n = none := by
    refine List.lookup_eq_none_iff.mpr fun entry member => ?_
    have behind := forms entry member
    simp only [bne_iff_ne, ne_eq]
    omega
  have noIdeograph : ideograph? n = none := by
    refine List.findSome?_eq_none_iff.mpr fun block member => ?_
    have behind := blocks block member
    exact if_neg (by omega)
  simp only [compatibilityForm?, noRun, noForm, noIdeograph, Option.map_none]

theorem combiningClass_of_lt
    (ascii : n < 0x80) :
    combiningClass n = 0 := by
  have runs : classRuns.all (0x80 ≤ ·.first) = true := by decide +kernel
  simp only [List.all_eq_true, decide_eq_true_eq] at runs
  have noRun : classRuns.find? (fun run => run.first ≤ n && n ≤ run.last) = none := by
    refine List.find?_eq_none.mpr fun run member => ?_
    have behind := runs run member
    simp only [Bool.and_eq_true, decide_eq_true_eq]
    omega
  rw [combiningClass, noRun]

/-- No code point of ASCII is a composite, or the second part of one. -/
theorem composites_of_lt
    (ascii : n < 0x80) :
    compositeParts? n = none ∧ ∀ first, composite? first n = none := by
  have marks : composites.all (0x80 ≤ ·.1) = true := by decide +kernel
  have wholes : (composites.all fun group => group.2.all (0x80 ≤ ·.2)) = true := by decide +kernel
  simp only [List.all_eq_true, decide_eq_true_eq] at marks wholes
  have noSyllable : syllableParts? n = none := if_neg (by omega)
  have noWhole : compositeParts? n = none := by
    simp only [compositeParts?, noSyllable]
    refine List.findSome?_eq_none_iff.mpr fun group member => ?_
    rw [Option.map_eq_none_iff, List.find?_eq_none]
    intro entry inside
    have behind := wholes group member entry inside
    simp only [decide_eq_true_eq]
    omega
  have noMark : composites.lookup n = none := by
    refine List.lookup_eq_none_iff.mpr fun group member => ?_
    have behind := marks group member
    simp only [bne_iff_ne, ne_eq]
    omega
  refine ⟨noWhole, fun first => ?_⟩
  have noConsonant : syllable? first n = none := by
    rw [syllable?, if_neg (by omega), if_neg (by omega)]
  simp only [composite?, noConsonant, noMark, Option.bind_none]

theorem isStable_of_lt
    (ascii : n < 0x80) :
    IsStable n where
  whole := (composites_of_lt ascii).1
  literal := compatibilityForm?_of_lt ascii
  starter := combiningClass_of_lt ascii
  apart := (composites_of_lt ascii).2

theorem normalForm_of_isAscii
    {t : Text}
    (ascii : ∀ c ∈ t, c.isAscii = true) :
    normalForm t = t := by
  refine normalForm_of_isStable fun c member => isStable_of_lt ?_
  simpa [CodePoint.isAscii] using ascii c member

end RecordGen.Unicode
