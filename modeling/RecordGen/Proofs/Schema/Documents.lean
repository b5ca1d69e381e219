import RecordGen.Proofs.Json.Limits
import RecordGen.Proofs.Schema.FirstFault

/-!
# Outcomes of documents

A raw document ends as a schema or as a decoding error, unless it passes a limit of the numbers or of
the nesting. Each limit that stops it is one that the document passes.
-/

namespace RecordGen

/-! ## Raw documents -/

/-- The text of a raw document, if its octets are one and it starts with no byte order mark. -/
def Json.Document.text? : Json.Document → Option Text
  | text t => if t.head? = some CodePoint.byteOrderMark then none else some t
  | octets bytes => ((Json.Encoding.detect bytes).decode bytes).toOption

theorem Json.Document.value_eq_error
    {document : Document} {failure : DocumentFailure}
    (failed : document.value = .error failure) :
    (∃ error, failure = .encoding error) ∨ (∃ error, failure = .reading (.syntaxError error)) ∨
      ∃ t reason, document.text? = some t ∧ failure = .reading reason ∧ read t = .error reason := by
  cases document with
  | text t =>
      obtain ⟨reason, stopped, rfl⟩ := mapError_eq_error.mp failed
      unfold readText at stopped
      split at stopped
      · cases stopped
        exact Or.inr (Or.inl ⟨_, rfl⟩)
      · rename_i noMark
        exact Or.inr (Or.inr ⟨t, reason, if_neg noMark, rfl, stopped⟩)
  | octets bytes =>
      simp only [value] at failed
      split at failed
      · cases failed
        exact Or.inl ⟨_, rfl⟩
      · rename_i t decoded
        obtain ⟨reason, stopped, rfl⟩ := mapError_eq_error.mp failed
        refine Or.inr (Or.inr ⟨t, reason, ?_, rfl, stopped⟩)
        rw [text?, decoded]
        rfl

namespace Schema

/-! ## Numbers out of range -/

def numberKeywords : List Keyword :=
  [.multipleOf, .maximum, .exclusiveMaximum, .minimum, .exclusiveMinimum]

/-- Decoding comes to a node with a number that no double-precision number is near to. -/
def MeetsHugeNumber (value : Json.Value) : Prop :=
  ∃ steps node keyword i, Reaches value steps node ∧ keyword ∈ numberKeywords ∧
    keyword? node keyword = some (.int i) ∧ Binary64.overflowBound ≤ i.natAbs

/-- What a keyword is refused for is an error, or the range of its number. -/
theorem refuses_outcomes
    {place : Location} {keyword : Keyword} {value : Json.Value} {failure : DecodeFailure}
    (refused : Refuses place keyword value failure) :
    (∃ error, failure = .error error) ∨
      (failure = .outOfRange ∧ keyword ∈ numberKeywords ∧
        ∃ i, value = .int i ∧ Binary64.overflowBound ≤ i.natAbs) := by
  have number {keyword} (refused : RefusesNumber place keyword value failure) :
      (∃ error, failure = .error error) ∨
        (failure = .outOfRange ∧ ∃ i, value = .int i ∧ Binary64.overflowBound ≤ i.natAbs) := by
    cases refused with
    | shape => exact Or.inl ⟨_, rfl⟩
    | overflow huge => exact Or.inr ⟨rfl, _, rfl, huge⟩
  cases keyword with
  | schema => exact refused.elim
  | id => exact Or.inl ⟨_, refused.2⟩
  | ref => exact Or.inl ⟨_, refused.2⟩
  | pattern => exact Or.inl ⟨_, refused.2⟩
  | properties => exact Or.inl ⟨_, refused.2⟩
  | type => cases refused <;> exact Or.inl ⟨_, rfl⟩
  | format => cases refused <;> exact Or.inl ⟨_, rfl⟩
  | minLength => cases refused <;> exact Or.inl ⟨_, rfl⟩
  | maxLength => cases refused <;> exact Or.inl ⟨_, rfl⟩
  | multipleOf => simpa [numberKeywords] using number refused
  | maximum => simpa [numberKeywords] using number refused
  | exclusiveMaximum => simpa [numberKeywords] using number refused
  | minimum => simpa [numberKeywords] using number refused
  | exclusiveMinimum => simpa [numberKeywords] using number refused

theorem firstRefused_outcomes
    {place : Location} {node : Json.Value} {keywords : List Keyword} {failure : DecodeFailure}
    (first : FirstRefused place node keywords failure) :
    (∃ error, failure = .error error) ∨
      (failure = .outOfRange ∧ ∃ keyword ∈ numberKeywords, ∃ i,
        keyword? node keyword = some (.int i) ∧ Binary64.overflowBound ≤ i.natAbs) := by
  induction first with
  | here found refused =>
      rcases refuses_outcomes refused with error | ⟨range, member, i, rfl, huge⟩
      · exact Or.inl error
      · exact Or.inr ⟨range, _, member, i, found, huge⟩
  | later _ _ inductionHypothesis => exact inductionHypothesis

/-- A value that is no schema has an error, or a number out of range. -/
theorem ofValue_outcomes (value : Json.Value) :
    (∃ schema, ofValue value = .ok schema) ∨ (∃ error, ofValue value = .error (.error error)) ∨
      (ofValue value = .error .outOfRange ∧ MeetsHugeNumber value) := by
  cases decoded : ofValue value with
  | ok schema => exact Or.inl ⟨schema, rfl⟩
  | error failure =>
      refine Or.inr ?_
      obtain ⟨steps, node, reached, fault⟩ := (decodeNode_eq_error_iff value).mp decoded
      cases fault with
      | shape refused =>
          obtain ⟨-, rfl⟩ := refused
          exact Or.inl ⟨_, rfl⟩
      | keyword first =>
          rcases firstRefused_outcomes first with ⟨error, rfl⟩ | ⟨rfl, keyword, member, i, found, huge⟩
          · exact Or.inl ⟨error, rfl⟩
          · exact Or.inr ⟨rfl, steps, _, keyword, i, reached, member, found, huge⟩

/-- A document ends as a schema or as a decoding error, or it passes a limit: a number that is decoded
is out of range, an integer in its text has too many digits, or its text nests too deeply. -/
theorem ofDocument_outcomes (document : Json.Document) :
    (∃ schema, ofDocument document = .ok schema) ∨
    (∃ error, ofDocument document = .error (.error error)) ∨
    (ofDocument document = .error .outOfRange ∧
      ∃ value, document.value = .ok value ∧ MeetsHugeNumber value) ∨
    (∃ t count, ofDocument document = .error (.tooManyDigits count) ∧ document.text? = some t ∧
      Json.digitLimit < count ∧ Json.SpellsInteger t count) ∨
    (∃ t, ofDocument document = .error .tooDeep ∧ document.text? = some t ∧
      Json.NestsTooDeeply t) := by
  unfold ofDocument
  cases read : document.value with
  | ok value =>
      rcases ofValue_outcomes value with schema | error | ⟨range, meets⟩
      · exact Or.inl schema
      · exact Or.inr (Or.inl error)
      · exact Or.inr (Or.inr (Or.inl ⟨range, value, rfl, meets⟩))
  | error failure =>
      rcases document.value_eq_error read with ⟨_, rfl⟩ | ⟨_, rfl⟩ | ⟨t, reason, isText, rfl, stopped⟩
      · exact Or.inr (Or.inl ⟨_, rfl⟩)
      · exact Or.inr (Or.inl ⟨_, rfl⟩)
      · rcases Json.read_eq_error stopped with ⟨_, rfl⟩ | ⟨rfl, deep⟩ | ⟨count, rfl, long, spelled⟩
        · exact Or.inr (Or.inl ⟨_, rfl⟩)
        · exact Or.inr (Or.inr (Or.inr (Or.inr ⟨t, rfl, isText, deep⟩)))
        · exact Or.inr (Or.inr (Or.inr (Or.inl ⟨t, count, rfl, isText, long, spelled⟩)))

/-- A document whose only keyword is a maximum: a one and some zeros. -/
def maximumDocument (zeros : Nat) : Json.Document :=
  .text (.ofString "\x7b\"maximum\": 1" ++ List.replicate zeros (CodePoint.ofChar '0') ++
    .ofString "\x7d")

/-- A maximum that is read well can be out of range, and a longer one is not read: neither is reported
as a decoding error. -/
theorem maximumDocument_escapes :
    (maximumDocument 309).value = .ok (.obj [(Keyword.maximum.name, .int (10 ^ 309))]) ∧
      ofDocument (maximumDocument 309) = .error .outOfRange ∧
      ofDocument (maximumDocument 4300) = .error (.tooManyDigits 4301) := by
  have outcome (zeros : Nat) (failure : DecodeFailure)
      (ends : (ofDocument (maximumDocument zeros)).map (fun _ => ()) = .error failure) :
      ofDocument (maximumDocument zeros) = .error failure := map_eq_error.mp ends
  refine ⟨by decide +kernel, outcome 309 _ ?_, outcome 4300 _ ?_⟩
  · decide +kernel
  · decide +kernel

end Schema
end RecordGen
