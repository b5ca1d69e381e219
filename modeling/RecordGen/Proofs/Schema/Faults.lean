import RecordGen.Proofs.Schema.Decoding

/-!
# Faults of schemas

How a value can fail to be a schema, said without the decoder: for each keyword the values that do not
fit and what is reported of them, for a node the first of its keywords that is refused, and for a
document the way to the node. Each keyword's decoder fails with what is said here.
-/

namespace RecordGen

/-! ## Places -/

def Location.below (place : Location) (steps : List Text) : Location :=
  { place with steps := place.steps ++ steps }

@[simp]
theorem Location.below_nil (place : Location) : place.below [] = place := by
  simp [below]

theorem Location.below_child
    (place : Location) (name : Text) (steps : List Text) :
    (place.child name).below steps = place.below (name :: steps) := by
  simp [below, child]

/-- The same error of a node that is reached by other steps. -/
def DecodeError.movedTo (steps : List Text) : DecodeError → DecodeError
  | malformed error => malformed error
  | undecodable error => undecodable error
  | unsupportedType token place => unsupportedType token { place with steps }
  | invalidType value place => invalidType value { place with steps }
  | unsupportedFormat token place => unsupportedFormat token { place with steps }
  | invalidKeyword keyword value expected place =>
    invalidKeyword keyword value expected { place with steps }

/-- The same failure at a node that is reached by other steps. -/
def DecodeFailure.movedTo (steps : List Text) : DecodeFailure → DecodeFailure
  | error e => error (e.movedTo steps)
  | failure => failure

/-- What the path of an error ends with: the keyword, if one of its words is to blame. -/
def DecodeError.suffix : DecodeError → Text
  | unsupportedType _ _ => .ofString "/type"
  | invalidType _ _ => .ofString "/type"
  | unsupportedFormat _ _ => .ofString "/format"
  | _ => []

namespace Schema

/-! ## Faults of a keyword -/

section Refusals

variable (place : Location) (keyword : Keyword)

/-- A value that is no text, where one has to be. -/
def RefusesText (value : Json.Value) (failure : DecodeFailure) : Prop :=
  (∀ t, value ≠ .str t) ∧ failure = .error (.invalidKeyword keyword value .string place)

/-- A value that is no object, where one has to be. -/
def RefusesObject (value : Json.Value) (failure : DecodeFailure) : Prop :=
  (∀ members, value ≠ .obj members) ∧ failure = .error (.invalidKeyword keyword value .object place)

/-- A word that names no type, a value that is neither a word nor a list, or a list whose first item
that is no word for a type decides: an unknown word is reported itself, any other item with the whole
list. -/
inductive RefusesType : Json.Value → DecodeFailure → Prop
  | token {token : Text} :
      (∀ p : PrimitiveType, token ≠ p.token) →
        RefusesType (.str token) (.error (.unsupportedType token (place.atKeyword .type)))
  | shape {value : Json.Value} :
      (∀ t, value ≠ .str t) → (∀ item items, value ≠ .arr (item :: items)) →
        RefusesType value (.error (.invalidType value (place.atKeyword .type)))
  | itemToken {before after : List Json.Value} {token : Text} :
      (∀ earlier ∈ before, ∃ p : PrimitiveType, earlier = .str p.token) →
        (∀ p : PrimitiveType, token ≠ p.token) →
          RefusesType (.arr (before ++ .str token :: after))
            (.error (.unsupportedType token (place.atKeyword .type)))
  | itemShape {before after : List Json.Value} {item : Json.Value} :
      (∀ earlier ∈ before, ∃ p : PrimitiveType, earlier = .str p.token) →
        (∀ t, item ≠ .str t) →
          RefusesType (.arr (before ++ item :: after))
            (.error (.invalidType (.arr (before ++ item :: after)) (place.atKeyword .type)))

/-- A word that names no format, or a value that is no text. -/
inductive RefusesFormat : Json.Value → DecodeFailure → Prop
  | token {token : Text} :
      (∀ f : StringFormat, token ≠ f.token) →
        RefusesFormat (.str token) (.error (.unsupportedFormat token (place.atKeyword .format)))
  | shape {value : Json.Value} :
      (∀ t, value ≠ .str t) →
        RefusesFormat value (.error (.invalidKeyword .format value .string place))

/-- A value that is no number, or an integer that no double-precision number is near to. -/
inductive RefusesNumber : Json.Value → DecodeFailure → Prop
  | shape {value : Json.Value} :
      (∀ i, value ≠ .int i) → (∀ x, value ≠ .float x) →
        RefusesNumber value (.error (.invalidKeyword keyword value .number place))
  | overflow {i : Int} :
      Binary64.overflowBound ≤ i.natAbs → RefusesNumber (.int i) .outOfRange

/-- A negative number without a fraction, which is reported as an integer, or a value that equals no
integer. -/
inductive RefusesLength : Json.Value → DecodeFailure → Prop
  | negative {value : Json.Value} {i : Int} :
      value.number? = some (i : ℚ) → i < 0 →
        RefusesLength value (.error (.invalidKeyword keyword (.int i) .length place))
  | shape {value : Json.Value} :
      (∀ i : Int, value.number? ≠ some (i : ℚ)) →
        RefusesLength value (.error (.invalidKeyword keyword value .length place))

end Refusals

/-- How decoding ends at the value of a keyword that does not fit, for a node in a place. -/
def Refuses (place : Location) : Keyword → Json.Value → DecodeFailure → Prop
  | .schema, _, _ => False
  | .id, value, failure => RefusesText place .id value failure
  | .ref, value, failure => RefusesText place .ref value failure
  | .pattern, value, failure => RefusesText place .pattern value failure
  | .type, value, failure => RefusesType place value failure
  | .format, value, failure => RefusesFormat place value failure
  | .multipleOf, value, failure => RefusesNumber place .multipleOf value failure
  | .maximum, value, failure => RefusesNumber place .maximum value failure
  | .exclusiveMaximum, value, failure => RefusesNumber place .exclusiveMaximum value failure
  | .minimum, value, failure => RefusesNumber place .minimum value failure
  | .exclusiveMinimum, value, failure => RefusesNumber place .exclusiveMinimum value failure
  | .minLength, value, failure => RefusesLength place .minLength value failure
  | .maxLength, value, failure => RefusesLength place .maxLength value failure
  | .properties, value, failure => RefusesObject place .properties value failure

/-! ## Faults of a node -/

/-- The keywords that hold a value of their own, in the order in which they are checked. -/
def plainKeywords : List Keyword :=
  [.id, .ref, .type, .format, .pattern, .multipleOf, .maximum, .exclusiveMaximum, .minimum,
    .exclusiveMinimum, .minLength, .maxLength]

def checkedKeywords : List Keyword := plainKeywords ++ [.properties]

/-- The keyword is absent, or its value fits. -/
def Passes (node : Json.Value) (keyword : Keyword) : Prop :=
  ∀ value, keyword? node keyword = some value → Fits keyword value

/-- The failure of the first of some keywords whose value does not fit. -/
inductive FirstRefused (place : Location) (node : Json.Value) :
    List Keyword → DecodeFailure → Prop
  | here {keyword : Keyword} {rest : List Keyword} {value : Json.Value} {failure : DecodeFailure} :
      keyword? node keyword = some value → Refuses place keyword value failure →
        FirstRefused place node (keyword :: rest) failure
  | later {keyword : Keyword} {rest : List Keyword} {failure : DecodeFailure} :
      Passes node keyword → FirstRefused place node rest failure →
        FirstRefused place node (keyword :: rest) failure

/-- The failure of a node itself: it is no object, or a keyword is refused. -/
inductive NodeFault (place : Location) : Json.Value → DecodeFailure → Prop
  | shape {node : Json.Value} {failure : DecodeFailure} :
      RefusesObject place .schema node failure → NodeFault place node failure
  | keyword {members : Json.Members} {failure : DecodeFailure} :
      FirstRefused place (.obj members) checkedKeywords failure → NodeFault place (.obj members) failure

/-- Decoding a node comes to a node below it, at the end of some steps: everything that is checked
before has passed. -/
inductive Reaches : Json.Value → List Text → Json.Value → Prop
  | here (node : Json.Value) : Reaches node [] node
  | child {members : Json.Members} {before after : List (Text × Json.Value)} {name : Text}
      {inner node : Json.Value} {steps : List Text} :
      (∀ keyword, Passes (.obj members) keyword) →
        children (.obj members) = before ++ (name, inner) :: after →
          (∀ earlier ∈ before, WellFormed earlier.2) →
            Reaches inner steps node → Reaches (.obj members) (name :: steps) node

/-! ## Keywords -/

section Keywords

variable {place : Location} {keyword : Keyword} {value : Json.Value} {failure : DecodeFailure}

theorem decodeText_eq_error_iff :
    decodeText keyword place value = .error failure ↔ RefusesText place keyword value failure := by
  cases value <;> simp [decodeText, refuse, RefusesText, eq_comm]

theorem decodeTypeToken_eq_error_iff
    {token : Text} :
    decodeTypeToken place token = .error failure ↔
      (∀ p : PrimitiveType, token ≠ p.token) ∧
        failure = .error (.unsupportedType token (place.atKeyword .type)) := by
  unfold decodeTypeToken
  cases found : PrimitiveType.ofToken? token with
  | none =>
      have unnamed (p : PrimitiveType) : token ≠ p.token := by
        intro named
        rw [PrimitiveType.ofToken?_eq_some_iff.mpr named] at found
        cases found
      simp [refuse, unnamed, eq_comm]
  | some p =>
      have named := PrimitiveType.ofToken?_eq_some_iff.mp found
      simp [named]

/-- Items are refused because of the first that is no word for a type. -/
theorem decodeTypeItems_eq_error_iff
    {whole : Json.Value} {items : List Json.Value} :
    decodeTypeItems place whole items = .error failure ↔
      ∃ before item after, items = before ++ item :: after ∧
        (∀ earlier ∈ before, ∃ p : PrimitiveType, earlier = .str p.token) ∧
          ((∃ token, item = .str token ∧ decodeTypeToken place token = .error failure) ∨
            (∀ t, item ≠ .str t) ∧
              failure = .error (.invalidType whole (place.atKeyword .type))) := by
  -- The item in front is the faulty one, or it names a type and the fault is behind it.
  induction items with
  | nil =>
      simp [decodeTypeItems]
  | cons item rest inductionHypothesis =>
      cases item with
      | str token =>
          simp only [decodeTypeItems, bind_eq_error, decodeTypeToken_eq_ok_iff]
          constructor
          · rintro (first | ⟨-, ⟨p, rfl, rfl⟩, later | ⟨others, -, last⟩⟩)
            · exact ⟨[], .str token, rest, rfl, by simp, Or.inl ⟨token, rfl, first⟩⟩
            · obtain ⟨before, item, after, rfl, words, fault⟩ := inductionHypothesis.mp later
              refine ⟨.str p.token :: before, item, after, rfl, ?_, fault⟩
              exact List.forall_mem_cons.mpr ⟨⟨p, rfl⟩, words⟩
            · cases last
          · rintro ⟨before, item, after, split, words, fault⟩
            cases before with
            | nil =>
                obtain ⟨rfl, rfl⟩ := List.cons.inj split
                rcases fault with ⟨_, ⟨⟩, refused⟩ | ⟨noText, -⟩
                · exact Or.inl refused
                · exact absurd rfl (noText token)
            | cons first before =>
                obtain ⟨rfl, rfl⟩ := List.cons.inj split
                obtain ⟨⟨p, named⟩, others⟩ := List.forall_mem_cons.mp words
                obtain rfl := Json.Value.str.inj named
                have later := inductionHypothesis.mpr ⟨before, item, after, rfl, others, fault⟩
                exact Or.inr ⟨_, ⟨p, rfl, rfl⟩, Or.inl later⟩
      | _ =>
          simp only [decodeTypeItems, refuse, Except.error.injEq]
          constructor
          · rintro rfl
            exact ⟨[], _, rest, rfl, by simp, Or.inr ⟨by simp, rfl⟩⟩
          · rintro ⟨before, item, after, split, words, fault⟩
            cases before with
            | nil =>
                obtain ⟨rfl, rfl⟩ := List.cons.inj split
                rcases fault with ⟨_, ⟨⟩, -⟩ | ⟨-, rfl⟩
                rfl
            | cons first before =>
                obtain ⟨rfl, -⟩ := List.cons.inj split
                obtain ⟨p, named⟩ := words _ List.mem_cons_self
                cases named

theorem decodeType_items
    (place : Location) (before after : List Json.Value) (item : Json.Value) :
    decodeType place (.arr (before ++ item :: after)) =
      decodeTypeItems place (.arr (before ++ item :: after)) (before ++ item :: after) := by
  cases before <;> rfl

theorem decodeType_eq_error_iff :
    decodeType place value = .error failure ↔ RefusesType place value failure := by
  constructor
  · intro failed
    unfold decodeType at failed
    split at failed
    · obtain ⟨unnamed, rfl⟩ := decodeTypeToken_eq_error_iff.mp failed
      exact .token unnamed
    · rename_i first rest
      obtain ⟨before, item, after, split, words, fault⟩ := decodeTypeItems_eq_error_iff.mp failed
      rw [split]
      rcases fault with ⟨token, rfl, refused⟩ | ⟨noText, rfl⟩
      · obtain ⟨unnamed, rfl⟩ := decodeTypeToken_eq_error_iff.mp refused
        exact .itemToken words unnamed
      · rw [split]
        exact .itemShape words noText
    · rename_i noText noItems
      cases failed
      exact .shape noText noItems
  · intro refused
    cases refused with
    | token unnamed =>
        exact decodeTypeToken_eq_error_iff.mpr ⟨unnamed, rfl⟩
    | shape noText noItems =>
        unfold decodeType
        split
        · exact absurd rfl (noText _)
        · exact absurd rfl (noItems _ _)
        · rfl
    | @itemToken before after token words unnamed =>
        rw [decodeType_items, decodeTypeItems_eq_error_iff]
        refine ⟨before, .str token, after, rfl, words, Or.inl ⟨token, rfl, ?_⟩⟩
        exact decodeTypeToken_eq_error_iff.mpr ⟨unnamed, rfl⟩
    | @itemShape before after item words noText =>
        rw [decodeType_items, decodeTypeItems_eq_error_iff]
        exact ⟨before, item, after, rfl, words, Or.inr ⟨noText, rfl⟩⟩

theorem decodeFormat_eq_error_iff :
    decodeFormat place value = .error failure ↔ RefusesFormat place value failure := by
  constructor
  · intro failed
    unfold decodeFormat at failed
    split at failed
    · rename_i token
      cases found : StringFormat.ofToken? token with
      | none =>
          rw [found] at failed
          cases failed
          refine .token fun f named => ?_
          rw [StringFormat.ofToken?_eq_some_iff.mpr named] at found
          cases found
      | some format =>
          rw [found] at failed
          cases failed
    · rename_i noText
      cases failed
      exact .shape noText
  · intro refused
    cases refused with
    | @token token unnamed =>
        cases found : StringFormat.ofToken? token with
        | none => simp [decodeFormat, found, refuse]
        | some format =>
            exact absurd (StringFormat.ofToken?_eq_some_iff.mp found) (unnamed format)
    | shape noText =>
        unfold decodeFormat
        split
        · exact absurd rfl (noText _)
        · rfl

theorem decodeNumber_eq_error_iff :
    decodeNumber keyword place value = .error failure ↔
      RefusesNumber place keyword value failure := by
  constructor
  · intro failed
    unfold decodeNumber at failed
    split at failed
    · cases failed
    · rename_i i
      cases found : Binary64.ofInt? i with
      | none =>
          rw [found] at failed
          cases failed
          refine .overflow (not_lt.mp fun small => ?_)
          obtain ⟨x, rounded⟩ := (Binary64.exists_ofInt?_iff i).mpr small
          rw [found] at rounded
          cases rounded
      | some x =>
          rw [found] at failed
          cases failed
    · rename_i noFloat noInt
      cases failed
      exact .shape noInt noFloat
  · intro refused
    cases refused with
    | shape noInt noFloat =>
        unfold decodeNumber
        split
        · exact absurd rfl (noFloat _)
        · exact absurd rfl (noInt _)
        · rfl
    | @overflow i large =>
        cases found : Binary64.ofInt? i with
        | none => simp [decodeNumber, found]
        | some x =>
            exact absurd ((Binary64.exists_ofInt?_iff i).mp ⟨x, found⟩) (not_lt.mpr large)

/-- What is reported of a value that equals no integer is the value itself. -/
theorem integral_of_forall_ne
    (noInteger : ∀ i : Int, value.number? ≠ some (i : ℚ)) :
    integral value = value := by
  have unequal (i : Int) : integral value ≠ .int i := fun equal =>
    noInteger i (integral_eq_int_iff.mp equal)
  cases value with
  | float x =>
      simp only [integral] at unequal ⊢
      cases found : x.toInt? with
      | none => rfl
      | some i =>
          rw [found] at unequal
          exact absurd rfl (unequal i)
  | _ =>
      rfl

theorem decodeLength_eq_error_iff :
    decodeLength keyword place value = .error failure ↔
      RefusesLength place keyword value failure := by
  constructor
  · intro failed
    unfold decodeLength at failed
    split at failed
    · cases failed
    · rename_i noLength
      cases failed
      by_cases equals : ∃ i : Int, value.number? = some (i : ℚ)
      · obtain ⟨i, equal⟩ := equals
        rw [integral_eq_int_iff.mpr equal] at noLength ⊢
        refine .negative equal ?_
        cases i with
        | ofNat n => exact absurd rfl (noLength n)
        | negSucc n => exact Int.negSucc_lt_zero n
      · have noInteger : ∀ i : Int, value.number? ≠ some (i : ℚ) := fun i equal => equals ⟨i, equal⟩
        rw [integral_of_forall_ne noInteger]
        exact .shape noInteger
  · intro refused
    cases refused with
    | @negative i equal negative =>
        rw [decodeLength, integral_eq_int_iff.mpr equal]
        cases i with
        | ofNat n => exact absurd negative (by simp)
        | negSucc n => rfl
    | shape noInteger =>
        unfold decodeLength
        split
        · rename_i n found
          exact absurd (integral_eq_int_iff.mp found) (noInteger _)
        · rw [integral_of_forall_ne noInteger]
          rfl

end Keywords

end Schema
end RecordGen
