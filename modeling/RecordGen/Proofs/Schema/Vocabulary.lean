import RecordGen.Schema.Vocabulary
import Mathlib.Data.Bool.Basic

/-!
# Words and sets of types

A word names at most one primitive type and at most one string format, and a set of types is known
by its members.
-/

namespace RecordGen

/-! ## Words -/

namespace PrimitiveType

theorem token_injective {p q : PrimitiveType} (same : p.token = q.token) : p = q := by
  revert same
  cases p <;> cases q <;> decide

theorem ofToken?_eq_some_iff
    {t : Text} {p : PrimitiveType} :
    ofToken? t = some p ↔ t = p.token := by
  constructor
  · intro found
    have named := List.find?_some found
    exact (of_decide_eq_true named).symm
  · rintro rfl
    cases p <;> decide

end PrimitiveType

namespace StringFormat

theorem token_injective {f g : StringFormat} (same : f.token = g.token) : f = g := by
  have left : ofToken? f.token = some f := by cases f <;> decide
  have right : ofToken? g.token = some g := by cases g <;> decide
  rw [same, right] at left
  exact (Option.some.inj left).symm

theorem ofToken?_eq_some_iff
    {t : Text} {f : StringFormat} :
    ofToken? t = some f ↔ t = f.token := by
  constructor
  · intro found
    have named := List.find?_some found
    exact (of_decide_eq_true named).symm
  · rintro rfl
    cases f <;> decide

end StringFormat

/-! ## Sets -/

namespace TypeSet

@[simp]
theorem contains_empty (p : PrimitiveType) : empty.contains p = false := by
  cases p <;> decide

@[simp]
theorem contains_single (p q : PrimitiveType) : (single p).contains q = decide (p = q) := by
  cases p <;> cases q <;> decide

@[simp]
theorem contains_union
    (s t : TypeSet) (p : PrimitiveType) :
    (s.union t).contains p = (s.contains p || t.contains p) := by
  simp [contains, union]

/-- Sets with the same members are the same. -/
theorem ext_contains
    {s t : TypeSet}
    (members : ∀ p, s.contains p = true ↔ t.contains p = true) :
    s = t := by
  have bit (p : PrimitiveType) : s.bits.getLsbD p.index = t.bits.getLsbD p.index :=
    Bool.eq_iff_iff.mpr (members p)
  have bits : s.bits = t.bits := by
    apply BitVec.eq_of_getLsbD_eq
    intro index inside
    have place : ∃ p : PrimitiveType, p.index = index := by
      have listed : ∀ n < 7, ∃ p ∈ PrimitiveType.all, p.index = n := by decide
      obtain ⟨p, -, same⟩ := listed index inside
      exact ⟨p, same⟩
    obtain ⟨p, rfl⟩ := place
    exact bit p
  cases s
  cases t
  exact congrArg TypeSet.mk bits

end TypeSet
end RecordGen
