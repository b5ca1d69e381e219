import RecordGen.Text
import Mathlib.Data.List.Forall2

/-!
# Aligned lists

Two lists are aligned by a relation when it holds between their elements place by place. This module
carries facts from one side of such a pair to the other.
-/

namespace RecordGen

universe u v w

variable {α : Type u} {β : Type v} {γ : Type w} {R : α → β → Prop}

theorem exists_right_of_mem
    {as : List α} {bs : List β} {a : α}
    (aligned : List.Forall₂ R as bs)
    (member : a ∈ as) :
    ∃ b ∈ bs, R a b := by
  induction aligned with
  | nil =>
      cases member
  | cons related _ inductionHypothesis =>
      rcases List.mem_cons.mp member with rfl | later
      · exact ⟨_, List.mem_cons_self, related⟩
      · obtain ⟨b, inside, found⟩ := inductionHypothesis later
        exact ⟨b, List.mem_cons_of_mem _ inside, found⟩

theorem exists_left_of_mem
    {as : List α} {bs : List β} {b : β}
    (aligned : List.Forall₂ R as bs)
    (member : b ∈ bs) :
    ∃ a ∈ as, R a b :=
  exists_right_of_mem aligned.flip member

/-- A list has an aligned one exactly when each of its elements has a partner. -/
theorem exists_aligned_iff
    {as : List α} :
    (∃ bs, List.Forall₂ R as bs) ↔ ∀ a ∈ as, ∃ b, R a b := by
  constructor
  · rintro ⟨bs, aligned⟩ a member
    obtain ⟨b, -, related⟩ := exists_right_of_mem aligned member
    exact ⟨b, related⟩
  · intro partners
    induction as with
    | nil =>
        exact ⟨[], .nil⟩
    | cons a as inductionHypothesis =>
        obtain ⟨⟨b, related⟩, others⟩ := List.forall_mem_cons.mp partners
        obtain ⟨bs, aligned⟩ := inductionHypothesis others
        exact ⟨b :: bs, .cons related aligned⟩

/-- The aligned list is unique if each partner is. -/
theorem eq_of_aligned
    {as : List α} {bs cs : List β}
    (single : ∀ a ∈ as, ∀ b c, R a b → R a c → b = c)
    (left : List.Forall₂ R as bs)
    (right : List.Forall₂ R as cs) :
    bs = cs := by
  induction left generalizing cs with
  | nil =>
      cases right
      rfl
  | cons related _ inductionHypothesis =>
      cases right with
      | cons related' right =>
          obtain ⟨first, others⟩ := List.forall_mem_cons.mp single
          rw [first _ _ related related', inductionHypothesis others right]

theorem map_eq_of_aligned
    {as : List α} {bs : List β} {f : α → γ} {g : β → γ}
    (same : ∀ a b, R a b → f a = g b)
    (aligned : List.Forall₂ R as bs) :
    as.map f = bs.map g := by
  induction aligned with
  | nil =>
      rfl
  | cons related _ inductionHypothesis =>
      rw [List.map_cons, List.map_cons, same _ _ related, inductionHypothesis]

/-- Lists with the same names are aligned by what holds of elements with the same name. -/
theorem aligned_of_map_eq
    {as : List α} {bs : List β} {f : α → γ} {g : β → γ}
    (names : as.map f = bs.map g)
    (related : ∀ a ∈ as, ∀ b ∈ bs, f a = g b → R a b) :
    List.Forall₂ R as bs := by
  induction as generalizing bs with
  | nil =>
      cases bs with
      | nil => exact .nil
      | cons => cases names
  | cons a as inductionHypothesis =>
      cases bs with
      | nil => cases names
      | cons b bs =>
          obtain ⟨first, others⟩ := List.cons.inj names
          refine .cons (related a List.mem_cons_self b List.mem_cons_self first) ?_
          refine inductionHypothesis others fun c inside d inside' => ?_
          exact related c (List.mem_cons_of_mem a inside) d (List.mem_cons_of_mem b inside')

end RecordGen
