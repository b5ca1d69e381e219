import RecordGen.Text
import Mathlib.Data.List.Lex
import Mathlib.Data.List.Nodup
import Mathlib.Order.Fin.Basic

/-!
# The order of texts

Texts are compared in the lexicographic order of their code points. It is a linear order, so a list
of texts that ascends strictly is determined by its members.
-/

namespace RecordGen.Text

/-- The test of texts decides the lexicographic order of their code points. -/
theorem le_eq_true_iff (s t : Text) : s.le t = true ↔ s ≤ t := by
  rw [← not_lt]
  induction s generalizing t with
  | nil =>
      simp [le]
  | cons a s inductionHypothesis =>
      cases t with
      | nil =>
          simp [le]
      | cons b t =>
          rw [List.cons_lt_cons_iff]
          rcases lt_trichotomy a b with less | rfl | greater
          · simp [le, less, less.not_gt, less.ne']
          · simp [le, inductionHypothesis]
          · simp [le, greater, greater.not_gt, greater.ne', Fin.val_inj]

/-- A list that ascends strictly is determined by its members. -/
theorem eq_of_ascending
    {ts us : List Text}
    (left : ts.Pairwise (· < ·))
    (right : us.Pairwise (· < ·))
    (members : ∀ t, t ∈ ts ↔ t ∈ us) :
    ts = us := by
  have single {vs : List Text} (ascending : vs.Pairwise (· < ·)) : vs.Nodup :=
    ascending.imp ne_of_lt
  have permuted : ts.Perm us :=
    (List.perm_ext_iff_of_nodup (single left) (single right)).mpr members
  exact permuted.eq_of_pairwise (fun _ _ _ _ below above => absurd above below.not_gt) left right

end RecordGen.Text
