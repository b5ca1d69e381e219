import RecordGen.Text
import Mathlib.Data.List.TakeDrop
import Mathlib.Data.List.TakeWhile

/-!
# Cuts in texts

Where a text is cut at a code point, and how the cut lies in a longer text.
-/

namespace RecordGen.Text

variable {mark : CodePoint} {keep : CodePoint → Bool} {s t u : Text}

theorem mark_mem_append_cons (mark : CodePoint) (s t : Text) : mark ∈ s ++ mark :: t :=
  List.mem_append_right s List.mem_cons_self

/-! ## At the first occurrence -/

theorem cut_of_not_mem (free : mark ∉ t) : cut mark t = (t, none) := by
  induction t with
  | nil =>
      rfl
  | cons c rest inductionHypothesis =>
      obtain ⟨different, others⟩ := not_or.mp (mt List.mem_cons.mpr free)
      rw [cut, if_neg (Ne.symm different), inductionHypothesis others]

theorem cut_append_mark
    (free : mark ∉ s)
    (t : Text) :
    cut mark (s ++ mark :: t) = (s, some t) := by
  induction s with
  | nil =>
      rw [List.nil_append, cut, if_pos rfl]
  | cons c s inductionHypothesis =>
      obtain ⟨different, others⟩ := not_or.mp (mt List.mem_cons.mpr free)
      rw [List.cons_append, cut, if_neg (Ne.symm different), inductionHypothesis others]

/-- What stands before the first mark of a text starts with all of a text in front that has none. -/
theorem cut_append_of_not_mem
    (free : mark ∉ s)
    (t : Text) :
    (cut mark (s ++ t)).1 = s ++ (cut mark t).1 := by
  induction s with
  | nil =>
      rfl
  | cons c s inductionHypothesis =>
      obtain ⟨different, others⟩ := not_or.mp (mt List.mem_cons.mpr free)
      rw [List.cons_append, cut, if_neg (Ne.symm different)]
      exact congrArg (c :: ·) (inductionHypothesis others)

theorem before_of_not_mem (free : mark ∉ t) : before mark t = t := by
  refine List.takeWhile_eq_self_iff.mpr fun c member => ?_
  exact decide_eq_true (ne_of_mem_of_not_mem member free)

theorem before_append_mark
    (free : mark ∉ s)
    (t : Text) :
    before mark (s ++ mark :: t) = s := by
  have all : ∀ c ∈ s, decide (c ≠ mark) = true := fun c member =>
    decide_eq_true (ne_of_mem_of_not_mem member free)
  rw [before, List.takeWhile_append_of_pos all]
  simp

/-! ## At the last occurrence -/

theorem afterLast_of_not_mem (free : mark ∉ t) : afterLast mark t = t := by
  cases t with
  | nil =>
      rfl
  | cons c rest =>
      obtain ⟨different, others⟩ := not_or.mp (mt List.mem_cons.mpr free)
      simp [afterLast, others, Ne.symm different]

theorem afterLast_append_mark
    (free : mark ∉ t)
    (s : Text) :
    afterLast mark (s ++ mark :: t) = t := by
  induction s with
  | nil =>
      simp [afterLast, free]
  | cons c s inductionHypothesis =>
      have later : (s ++ mark :: t).contains mark = true :=
        List.contains_iff_mem.mpr (mark_mem_append_cons mark s t)
      rw [List.cons_append, afterLast, if_pos later, inductionHypothesis]

/-! ## Where a run stops -/

/-- A run that stops at the start of what is appended does not go on into it. -/
theorem takeWhile_append_of_stop
    (stop : u.head?.any keep = false)
    (t : Text) :
    (t ++ u).takeWhile keep = t.takeWhile keep := by
  have ended : u.takeWhile keep = [] := by
    cases u with
    | nil => rfl
    | cons c u => simp [show keep c = false from stop]
  rw [List.takeWhile_append, ended, List.append_nil]
  split_ifs with whole
  · exact ((List.takeWhile_prefix keep).eq_of_length whole).symm
  · rfl

theorem dropWhile_append_of_stop
    (stop : u.head?.any keep = false)
    (t : Text) :
    (t ++ u).dropWhile keep = t.dropWhile keep ++ u := by
  have ended : u.dropWhile keep = u := by
    cases u with
    | nil => rfl
    | cons c u => simp [show keep c = false from stop]
  rw [List.dropWhile_append, ended]
  split_ifs with none
  · rw [List.isEmpty_iff.mp none, List.nil_append]
  · rfl

end RecordGen.Text
