import RecordGen.Proofs.Name.Points

/-!
# Ordinary code points

No control character but the line feed and no surrogate is among the letters, the digits and the
capitals, so none gets into a text through a type name or a name in Pascal case.
-/

namespace RecordGen

/-- No surrogate, and no control character but the line feed. -/
def CodePoint.isOrdinary (c : CodePoint) : Bool :=
  (c.val = 0x0A || 0x20 ≤ c.val) && !c.isSurrogate

/-- A text in Pascal case is ordinary, whatever it is made of. -/
theorem Pascal.isOrdinary_of_mem_ofText
    {t : Text} {c : CodePoint}
    (member : c ∈ ofText t) :
    c.isOrdinary = true := by
  have outside := contains_of_mem_ofText member
  have control : c.val < 0x0 ∨ 0x1F < c.val := Unicode.Ranges.outside_of_holdsAll outside rfl
  have surrogate : c.val < 0xD800 ∨ 0xDFFF < c.val :=
    Unicode.Ranges.outside_of_holdsAll outside rfl
  simp only [CodePoint.isOrdinary, CodePoint.isSurrogate, Bool.and_eq_true, Bool.or_eq_true,
    Bool.not_eq_true', Bool.and_eq_false_iff, decide_eq_true_eq, decide_eq_false_iff_not]
  omega

theorem TypeName.isOrdinary_of_ofUri
    {uri name : Text} {c : CodePoint}
    (named : TypeName.ofUri uri = .ok name)
    (member : c ∈ name) :
    c.isOrdinary = true := by
  obtain ⟨-, t, rfl⟩ := exists_ofText_of_ofUri named
  exact Pascal.isOrdinary_of_mem_ofText member

end RecordGen
