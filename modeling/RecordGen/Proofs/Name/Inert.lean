import RecordGen.Proofs.Name.Points
import RecordGen.Source.Literal
import RecordGen.Unicode.Blank

/-!
# Inert names

A type name cannot end the text it is written into. Whatever a URI is made of, its name is one word:
no blank, no line break, no quote and no backslash is in it, not even after its letters have got their
upper-case forms, which may be several code points.
-/

namespace RecordGen

namespace Unicode

/-- The ranges of code points at which some reader of lines ends a line. -/
def lineBreakRanges : Ranges := [(0xA, 0xD), (0x1C, 0x1E), (0x85, 0x85), (0x2028, 0x2029)]

/-- The code point ends a line for some reader of lines. -/
def isLineBreak (c : CodePoint) : Bool := lineBreakRanges.contains c

end Unicode

/-! ## Type names -/

/-- A text that is one word wherever it is written: it has at least one code point, and no blank, no
line break, no quote, no backslash and no ASCII code point other than letters and digits. -/
structure IsInert (name : Text) : Prop where
  nonempty : name ≠ []
  ascii : ∀ c ∈ name, c.isAscii = true → c.isAsciiLetter = true ∨ c.isAsciiDigit = true
  blank : ∀ c ∈ name, Unicode.isBlank c = false
  lineBreak : ∀ c ∈ name, Unicode.isLineBreak c = false
  quote : ∀ c ∈ name, Source.isQuoteMark c = false ∧ c ≠ Source.backslash

/-- The type name of a URI is inert, whatever the URI is. -/
theorem TypeName.isInert_of_ofUri
    {uri name : Text}
    (named : TypeName.ofUri uri = .ok name) :
    IsInert name := by
  obtain ⟨nonempty, t, rfl⟩ := exists_ofText_of_ofUri named
  have points : ∀ c ∈ Pascal.ofText t, c.isNamePoint = true := fun c member =>
    Pascal.isNamePoint_of_mem_ofText member
  have absent {ranges : Unicode.Ranges} {c : CodePoint}
      (included : Unicode.separatorRanges.includes ranges = true)
      (member : c ∈ Pascal.ofText t) :
      ranges.contains c = false := by
    rw [Bool.eq_false_iff]
    intro held
    have separates := Unicode.Ranges.contains_of_includes included held
    rw [Pascal.contains_of_mem_ofText member] at separates
    cases separates
  -- The ranges of blanks and of line breaks are among those of the separators.
  refine ⟨nonempty, fun c member ascii => ?_, fun c member => ?_, fun c member => ?_,
    fun c member => ?_⟩
  · have point := points c member
    rw [CodePoint.isNamePoint, ascii] at point
    simpa using point
  · exact absent (by decide) member
  · exact absent (by decide) member
  · have different {mark : CodePoint} (other : mark.isNamePoint = false) : c ≠ mark := by
      rintro rfl
      rw [points c member] at other
      cases other
    have single : c ≠ Source.singleQuote := different (by decide)
    have double : c ≠ Source.doubleQuote := different (by decide)
    exact ⟨by simp [Source.isQuoteMark, single, double], different (by decide)⟩

end RecordGen
