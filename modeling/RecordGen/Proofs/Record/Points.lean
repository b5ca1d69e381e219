import RecordGen.Proofs.Name.Ordinary
import RecordGen.Proofs.Record.ClassBody

/-!
# Points of generated modules

Most of a module is fixed text or comes from type names, and that is ordinary. Only the comment and the
field names of a declaration get into its module as they are, so any other code point comes from them.
-/

namespace RecordGen

/-- The predicate holds of no ordinary code point. -/
def IsForeign (bad : CodePoint → Bool) : Prop := ∀ c, c.isOrdinary = true → bad c = false

section Foreign

variable {bad : CodePoint → Bool} {options : RecordOptions} {d : Declaration}

theorem IsForeign.any_eq_false
    {t : Text}
    (foreign : IsForeign bad)
    (ordinary : t.all CodePoint.isOrdinary = true) :
    t.any bad = false :=
  List.any_eq_false.mpr fun c member => by simp [foreign c (List.all_eq_true.mp ordinary c member)]

theorem IsForeign.any_line
    {t : Text}
    (foreign : IsForeign bad) :
    t.line.any bad = t.any bad := by
  have lineEnd : bad CodePoint.lineFeed = false := foreign _ (by decide)
  simp [Text.line, lineEnd]

theorem IsForeign.any_of_ofUri
    {uri name : Text}
    (foreign : IsForeign bad)
    (named : TypeName.ofUri uri = .ok name) :
    name.any bad = false :=
  foreign.any_eq_false (List.all_eq_true.mpr fun _ member => TypeName.isOrdinary_of_ofUri named member)

namespace Declaration

/-- The references of a declaration are type names. -/
def HasReferences (d : Declaration) : Prop :=
  ∀ field ∈ d.fields, ∀ className, field.type = .reference className →
    ∃ uri, TypeName.ofUri uri = .ok className

theorem any_annotationText
    {type : FieldType}
    (foreign : IsForeign bad)
    (referred : ∀ className, type = .reference className →
      ∃ uri, TypeName.ofUri uri = .ok className) :
    (annotationText options type).any bad = false := by
  cases type with
  | builtin b =>
      have written : annotationText options (.builtin b) = (FieldType.builtin b).text := rfl
      rw [written]
      cases b <;> exact foreign.any_eq_false (by decide)
  | standard t =>
      have written : annotationText options (.standard t) = (FieldType.standard t).text := rfl
      rw [written]
      cases t <;> exact foreign.any_eq_false (by decide)
  | reference className =>
      obtain ⟨uri, named⟩ := referred className rfl
      have name := foreign.any_of_ofUri named
      have missing : (Text.ofString " | None").any bad = false := foreign.any_eq_false (by decide)
      have quote : (Text.ofString "\"").any bad = false := foreign.any_eq_false (by decide)
      simp only [annotationText]
      split <;> simp [FieldType.text, name, missing, quote]

theorem any_fieldLine
    {field : RecordField}
    (foreign : IsForeign bad)
    (referred : ∀ className, field.type = .reference className →
      ∃ uri, TypeName.ofUri uri = .ok className) :
    (fieldLine options field).any bad = field.name.any bad := by
  have margin : (Text.ofString "    ").any bad = false := foreign.any_eq_false (by decide)
  have gap : (Text.ofString ": ").any bad = false := foreign.any_eq_false (by decide)
  rw [fieldLine, foreign.any_line]
  simp [margin, gap, any_annotationText foreign referred]

theorem any_importBlock (foreign : IsForeign bad) : d.importBlock.any bad = false := by
  have importWord : (Text.ofString "import ").any bad = false := foreign.any_eq_false (by decide)
  have last : (Text.ofString "from dataclasses import dataclass").any bad = false :=
    foreign.any_eq_false (by decide)
  have needed : ∀ m ∈ d.modules, (Text.line (Text.ofString "import " ++ m)).any bad = false := by
    intro m member
    obtain ⟨field, -, isModule⟩ := mem_modules_iff.mp member
    have known : m.any bad = false := by
      cases type : field.type with
      | standard t =>
          rw [type] at isModule
          cases isModule
          cases t <;> exact foreign.any_eq_false (by decide)
      | _ =>
          rw [type] at isModule
          cases isModule
    rw [foreign.any_line, List.any_append, importWord, known]
    rfl
  have modules : (d.modules.any fun m => (Text.line (Text.ofString "import " ++ m)).any bad) = false :=
    List.any_eq_false.mpr fun m member => by simp [-List.any_eq_true, needed m member]
  rw [importBlock, List.any_append, List.any_flatMap, foreign.any_line, last, modules]
  rfl

/-- Only the field names of a declaration get into its text as they are. -/
theorem any_text
    (foreign : IsForeign bad)
    (named : ∃ uri, TypeName.ofUri uri = .ok d.className)
    (referred : d.HasReferences) :
    (d.text options).any bad = d.fields.any fun field => field.name.any bad := by
  obtain ⟨uri, named⟩ := named
  have name := foreign.any_of_ofUri named
  have decorator : (Text.ofString "@dataclass").any bad = false := foreign.any_eq_false (by decide)
  have classWord : (Text.ofString "class ").any bad = false := foreign.any_eq_false (by decide)
  have colon : (Text.ofString ":").any bad = false := foreign.any_eq_false (by decide)
  have fields : (d.fields.any fun field => (fieldLine options field).any bad) =
      d.fields.any fun field => field.name.any bad := by
    rw [Bool.eq_iff_iff, List.any_eq_true, List.any_eq_true]
    exact exists_congr fun field => and_congr_right fun member => by
      rw [any_fieldLine foreign (referred field member)]
  simp only [text, List.any_append, foreign.any_line, List.any_flatMap, any_importBlock foreign,
    decorator, classWord, name, colon, fields]
  simp

/-- Beside the field names only the comment gets into a module as it is. -/
theorem any_moduleCode
    {comment : Text}
    (foreign : IsForeign bad)
    (named : ∃ uri, TypeName.ofUri uri = .ok d.className)
    (referred : d.HasReferences) :
    (moduleCode comment options d).any bad =
      (comment.any bad || d.fields.any fun field => field.name.any bad) := by
  have late : (if options.lateAnnotations then Text.line lateAnnotationLine ++ [CodePoint.lineFeed]
      else []).any bad = false := by
    have lateLine : lateAnnotationLine.any bad = false := foreign.any_eq_false (by decide)
    split
    · exact (foreign.any_line (t := Text.line lateAnnotationLine)).trans
        (foreign.any_line.trans lateLine)
    · rfl
  rw [moduleCode, List.any_append, List.any_append, late, any_text foreign named referred,
    Bool.false_or]

end Declaration

end Foreign
end RecordGen
