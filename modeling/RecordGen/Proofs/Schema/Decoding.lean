import RecordGen.Proofs.Outcome
import RecordGen.Proofs.Schema.Meaning
import RecordGen.Proofs.Schema.Vocabulary
import RecordGen.Schema.Decode

/-!
# What decoding accepts and yields

Decoding succeeds exactly on the well formed values, and the schema it yields is the one that the
value means. Each keyword's decoder is first characterised alone, then a node's keywords together,
and the document by induction on its nodes.
-/

namespace RecordGen.Schema

/-! ## Types -/

theorem decodeTypeToken_eq_ok_iff
    {place : Location} {token : Text} {types : TypeSet} :
    decodeTypeToken place token = .ok types ↔
      ∃ p : PrimitiveType, token = p.token ∧ types = .single p := by
  unfold decodeTypeToken
  cases found : PrimitiveType.ofToken? token with
  | none =>
      have unnamed (p : PrimitiveType) : token ≠ p.token := by
        intro named
        rw [PrimitiveType.ofToken?_eq_some_iff.mpr named] at found
        cases found
      simp [refuse, unnamed]
  | some p =>
      obtain rfl := PrimitiveType.ofToken?_eq_some_iff.mp found
      constructor
      · intro decoded
        cases decoded
        exact ⟨p, rfl, rfl⟩
      · rintro ⟨q, same, rfl⟩
        rw [PrimitiveType.token_injective same]

theorem decodeTypeItems_str_eq_ok_iff
    {place : Location} {whole : Json.Value} {token : Text} {rest : List Json.Value}
    {types : TypeSet} :
    decodeTypeItems place whole (.str token :: rest) = .ok types ↔
      ∃ p : PrimitiveType, token = p.token ∧
        ∃ others, decodeTypeItems place whole rest = .ok others ∧
          types = (TypeSet.single p).union others := by
  simp only [decodeTypeItems, bind_eq_ok, decodeTypeToken_eq_ok_iff]
  constructor
  · rintro ⟨first, ⟨p, named, rfl⟩, others, decoded, last⟩
    cases last
    exact ⟨p, named, others, decoded, rfl⟩
  · rintro ⟨p, named, others, decoded, rfl⟩
    exact ⟨_, ⟨p, named, rfl⟩, others, decoded, rfl⟩

/-- Items decode exactly when each of them is a word. -/
theorem exists_decodeTypeItems_iff
    {place : Location} {whole : Json.Value} {items : List Json.Value} :
    (∃ types, decodeTypeItems place whole items = .ok types) ↔
      ∀ item ∈ items, ∃ p : PrimitiveType, item = .str p.token := by
  induction items with
  | nil =>
      simp [decodeTypeItems]
  | cons item rest inductionHypothesis =>
      rw [List.forall_mem_cons, ← inductionHypothesis]
      cases item with
      | str token =>
          constructor
          · rintro ⟨types, decoded⟩
            obtain ⟨p, rfl, others, rest, -⟩ := decodeTypeItems_str_eq_ok_iff.mp decoded
            exact ⟨⟨p, rfl⟩, others, rest⟩
          · rintro ⟨⟨p, named⟩, others, rest⟩
            cases named
            exact ⟨_, decodeTypeItems_str_eq_ok_iff.mpr ⟨p, rfl, others, rest, rfl⟩⟩
      | _ =>
          simp [decodeTypeItems, refuse]

/-- Items give the set of the types that they name. -/
theorem contains_of_decodeTypeItems
    {place : Location} {whole : Json.Value} {items : List Json.Value} {types : TypeSet}
    (decoded : decodeTypeItems place whole items = .ok types)
    (p : PrimitiveType) :
    types.contains p = true ↔ .str p.token ∈ items := by
  induction items generalizing types with
  | nil =>
      cases decoded
      simp
  | cons item rest inductionHypothesis =>
      cases item with
      | str token =>
          obtain ⟨q, rfl, others, tail, rfl⟩ := decodeTypeItems_str_eq_ok_iff.mp decoded
          have sameWord : q = p ↔ p.token = q.token :=
            ⟨fun same => by rw [same], fun same => (PrimitiveType.token_injective same).symm⟩
          simp [inductionHypothesis tail, sameWord]
      | _ =>
          cases decoded

/-- A value of `type` decodes exactly when it is one word or a list of words. -/
theorem exists_decodeType_iff
    {place : Location} {value : Json.Value} :
    (∃ types, decodeType place value = .ok types) ↔ IsTypeValue value := by
  constructor
  · rintro ⟨types, decoded⟩
    unfold decodeType at decoded
    split at decoded
    · obtain ⟨p, rfl, -⟩ := decodeTypeToken_eq_ok_iff.mp decoded
      exact .word p
    · exact .list (List.cons_ne_nil _ _) (exists_decodeTypeItems_iff.mp ⟨types, decoded⟩)
    · cases decoded
  · intro fits
    cases fits with
    | word p =>
        exact ⟨_, decodeTypeToken_eq_ok_iff.mpr ⟨p, rfl, rfl⟩⟩
    | @list items nonempty words =>
        obtain ⟨item, rest, rfl⟩ := List.exists_cons_of_ne_nil nonempty
        exact exists_decodeTypeItems_iff.mpr words

/-- A value of `type` gives the set of the types that it lists. -/
theorem readsTypes_of_decodeType
    {place : Location} {value : Json.Value} {types : TypeSet}
    (decoded : decodeType place value = .ok types) :
    ReadsTypes value types := by
  intro p
  unfold decodeType at decoded
  split at decoded
  · obtain ⟨q, rfl, rfl⟩ := decodeTypeToken_eq_ok_iff.mp decoded
    rw [TypeSet.contains_single, decide_eq_true_eq]
    constructor
    · rintro rfl
      exact .word q
    · intro listed
      generalize spelled : Json.Value.str q.token = value at listed
      cases listed with
      | word =>
          exact PrimitiveType.token_injective (Json.Value.str.inj spelled)
      | item =>
          cases spelled
  · rw [contains_of_decodeTypeItems decoded, lists_arr_iff]
  · cases decoded

/-! ## Other keywords -/

theorem decodeText_eq_ok_iff
    {keyword : Keyword} {place : Location} {value : Json.Value} {t : Text} :
    decodeText keyword place value = .ok t ↔ ReadsText value t := by
  cases value <;> simp [decodeText, refuse, ReadsText]

theorem decodeFormat_eq_ok_iff
    {place : Location} {value : Json.Value} {format : StringFormat} :
    decodeFormat place value = .ok format ↔ ReadsFormat value format := by
  cases value with
  | str token =>
      simp only [decodeFormat, ReadsFormat, Json.Value.str.injEq,
        ← StringFormat.ofToken?_eq_some_iff]
      cases StringFormat.ofToken? token <;> simp [refuse]
  | _ =>
      simp [decodeFormat, refuse, ReadsFormat]

theorem decodeNumber_eq_ok_iff
    {keyword : Keyword} {place : Location} {value : Json.Value} {x : Binary64} :
    decodeNumber keyword place value = .ok x ↔
      value = .float x ∨ ∃ i, value = .int i ∧ Binary64.ofInt? i = some x := by
  cases value with
  | int i =>
      cases found : Binary64.ofInt? i <;> simp [decodeNumber, found]
  | _ =>
      simp [decodeNumber, refuse]

/-- A number decodes exactly when it does not overflow. -/
theorem exists_decodeNumber_iff
    {keyword : Keyword} {place : Location} {value : Json.Value} :
    (∃ x, decodeNumber keyword place value = .ok x) ↔ IsNumberValue value := by
  simp only [decodeNumber_eq_ok_iff]
  constructor
  · rintro ⟨x, rfl | ⟨i, rfl, found⟩⟩
    · exact .float x
    · exact .int ((Binary64.exists_ofInt?_iff i).mp ⟨x, found⟩)
  · intro fits
    cases fits with
    | float x =>
        exact ⟨x, Or.inl rfl⟩
    | @int i small =>
        obtain ⟨x, found⟩ := (Binary64.exists_ofInt?_iff i).mpr small
        exact ⟨x, Or.inr ⟨i, rfl, found⟩⟩

theorem readsNumber_of_decodeNumber
    {keyword : Keyword} {place : Location} {value : Json.Value} {x : Binary64}
    (decoded : decodeNumber keyword place value = .ok x) :
    ReadsNumber value x := by
  rcases decodeNumber_eq_ok_iff.mp decoded with rfl | ⟨i, rfl, found⟩
  · exact .float x
  · exact .int (Binary64.isNearest_of_ofInt? found)

/-- A number without a fraction counts as the integer that it equals. -/
theorem integral_eq_int_iff
    {value : Json.Value} {i : Int} :
    integral value = .int i ↔ value.number? = some (i : ℚ) := by
  cases value with
  | int j =>
      simp [integral, Json.Value.number?]
  | float x =>
      simp only [integral, Json.Value.number?, ← Binary64.toInt?_eq_some_iff]
      cases x.toInt? <;> simp
  | _ =>
      simp [integral, Json.Value.number?]

theorem decodeLength_eq_ok_iff
    {keyword : Keyword} {place : Location} {value : Json.Value} {n : Nat} :
    decodeLength keyword place value = .ok n ↔ ReadsLength value n := by
  have spelled : ReadsLength value n ↔ integral value = .int (n : Int) := by
    rw [integral_eq_int_iff, ReadsLength, Int.cast_natCast]
  rw [spelled, decodeLength]
  cases integral value with
  | int i =>
      cases i <;> simp [refuse]
  | _ =>
      simp [refuse]

/-! ## The keywords of a node -/

section Optional

variable {α : Type} {decode : Keyword → Location → Json.Value → Decoding α}
  {members : Json.Members} {place : Location} {keyword : Keyword}

theorem exists_optional_iff
    (fits : ∀ value, (∃ a, decode keyword place value = .ok a) ↔ Fits keyword value) :
    (∃ field, optional decode members place keyword = .ok field) ↔
      ∀ value, keyword? (.obj members) keyword = some value → Fits keyword value := by
  rw [keyword?_obj, optional]
  cases members.get? keyword.name with
  | none =>
      simp
  | some value =>
      simp [map_eq_ok, ← fits]

/-- A keyword that decodes denotes what its value reads as, or nothing if it is absent. -/
theorem denotes_of_optional
    {reads : Json.Value → α → Prop} {field : Option α}
    (decodes : ∀ value a, decode keyword place value = .ok a → reads value a)
    (decoded : optional decode members place keyword = .ok field) :
    Denotes (Given reads) none (keyword? (.obj members) keyword) field := by
  rw [optional] at decoded
  rw [keyword?_obj]
  cases found : members.get? keyword.name with
  | none =>
      rw [found] at decoded
      cases decoded
      rfl
  | some value =>
      rw [found, map_eq_ok] at decoded
      obtain ⟨a, read, rfl⟩ := decoded
      exact ⟨a, rfl, decodes value a read⟩

/-- A field with a default has it exactly when the keyword is absent. -/
theorem denotes_getD
    {reads : Json.Value → α → Prop} {field : Option α} {default : α} {found : Option Json.Value}
    (denotes : Denotes (Given reads) none found field) :
    Denotes reads default found (field.getD default) := by
  cases found with
  | none =>
      rw [show field = none from denotes]
      rfl
  | some value =>
      obtain ⟨a, rfl, read⟩ := denotes
      exact read

end Optional

section Families

variable {members : Json.Members} {place : Location} {keyword : Keyword}

theorem exists_optional_decodeText_iff
    (fits : ∀ value, Fits keyword value ↔ ∃ t, value = .str t) :
    (∃ field, optional decodeText members place keyword = .ok field) ↔
      ∀ value, keyword? (.obj members) keyword = some value → Fits keyword value := by
  apply exists_optional_iff
  intro value
  simp only [decodeText_eq_ok_iff, ReadsText, fits]

theorem exists_optional_decodeNumber_iff
    (fits : ∀ value, Fits keyword value ↔ IsNumberValue value) :
    (∃ field, optional decodeNumber members place keyword = .ok field) ↔
      ∀ value, keyword? (.obj members) keyword = some value → Fits keyword value := by
  apply exists_optional_iff
  intro value
  rw [exists_decodeNumber_iff, fits]

theorem exists_optional_decodeLength_iff
    (fits : ∀ value, Fits keyword value ↔ ∃ n : Nat, value.number? = some (n : ℚ)) :
    (∃ field, optional decodeLength members place keyword = .ok field) ↔
      ∀ value, keyword? (.obj members) keyword = some value → Fits keyword value := by
  apply exists_optional_iff
  intro value
  simp only [decodeLength_eq_ok_iff, ReadsLength, fits]

theorem exists_optional_decodeType_iff :
    (∃ field, optional (fun _ => decodeType) members place .type = .ok field) ↔
      ∀ value, keyword? (.obj members) .type = some value → Fits .type value :=
  exists_optional_iff fun _ => exists_decodeType_iff

theorem exists_optional_decodeFormat_iff :
    (∃ field, optional (fun _ => decodeFormat) members place .format = .ok field) ↔
      ∀ value, keyword? (.obj members) .format = some value → Fits .format value := by
  apply exists_optional_iff
  intro value
  simp only [decodeFormat_eq_ok_iff, ReadsFormat, Fits]

end Families

/-- A node's keywords decode exactly when each of them has a value that fits. -/
theorem exists_decodeKeywords_iff
    {place : Location} {members : Json.Members} :
    (∃ schema, decodeKeywords place members = .ok schema) ↔
      ∀ keyword value, keyword ≠ .properties →
        keyword? (.obj members) keyword = some value → Fits keyword value := by
  -- No keyword looks at another one, so each is settled by the kind of value that it takes.
  have text {keyword} (fits : ∀ value, Fits keyword value ↔ ∃ t, value = .str t) :=
    @exists_optional_decodeText_iff members place keyword fits
  have number {keyword} (fits : ∀ value, Fits keyword value ↔ IsNumberValue value) :=
    @exists_optional_decodeNumber_iff members place keyword fits
  have length {keyword}
      (fits : ∀ value, Fits keyword value ↔ ∃ n : Nat, value.number? = some (n : ℚ)) :=
    @exists_optional_decodeLength_iff members place keyword fits
  have type := @exists_optional_decodeType_iff members place
  have format := @exists_optional_decodeFormat_iff members place
  simp only [decodeKeywords, bind_eq_ok]
  constructor
  · rintro ⟨schema, id, idDecoded, ref, refDecoded, types, typesDecoded, format', formatDecoded,
      pattern, patternDecoded, multipleOf, multipleOfDecoded, maximum, maximumDecoded,
      exclusiveMaximum, exclusiveMaximumDecoded, minimum, minimumDecoded,
      exclusiveMinimum, exclusiveMinimumDecoded, minLength, minLengthDecoded,
      maxLength, maxLengthDecoded, -⟩ keyword value notProperties found
    cases keyword with
    | schema => trivial
    | id => exact (text fun _ => Iff.rfl).mp ⟨_, idDecoded⟩ value found
    | ref => exact (text fun _ => Iff.rfl).mp ⟨_, refDecoded⟩ value found
    | type => exact type.mp ⟨_, typesDecoded⟩ value found
    | format => exact format.mp ⟨_, formatDecoded⟩ value found
    | pattern => exact (text fun _ => Iff.rfl).mp ⟨_, patternDecoded⟩ value found
    | multipleOf => exact (number fun _ => Iff.rfl).mp ⟨_, multipleOfDecoded⟩ value found
    | maximum => exact (number fun _ => Iff.rfl).mp ⟨_, maximumDecoded⟩ value found
    | exclusiveMaximum =>
        exact (number fun _ => Iff.rfl).mp ⟨_, exclusiveMaximumDecoded⟩ value found
    | minimum => exact (number fun _ => Iff.rfl).mp ⟨_, minimumDecoded⟩ value found
    | exclusiveMinimum =>
        exact (number fun _ => Iff.rfl).mp ⟨_, exclusiveMinimumDecoded⟩ value found
    | minLength => exact (length fun _ => Iff.rfl).mp ⟨_, minLengthDecoded⟩ value found
    | maxLength => exact (length fun _ => Iff.rfl).mp ⟨_, maxLengthDecoded⟩ value found
    | properties => exact absurd rfl notProperties
  · intro fits
    obtain ⟨id, idDecoded⟩ := (text fun _ => Iff.rfl).mpr (fits .id · (by decide))
    obtain ⟨ref, refDecoded⟩ := (text fun _ => Iff.rfl).mpr (fits .ref · (by decide))
    obtain ⟨types, typesDecoded⟩ := type.mpr (fits .type · (by decide))
    obtain ⟨format', formatDecoded⟩ := format.mpr (fits .format · (by decide))
    obtain ⟨pattern, patternDecoded⟩ := (text fun _ => Iff.rfl).mpr (fits .pattern · (by decide))
    obtain ⟨multipleOf, multipleOfDecoded⟩ :=
      (number fun _ => Iff.rfl).mpr (fits .multipleOf · (by decide))
    obtain ⟨maximum, maximumDecoded⟩ :=
      (number fun _ => Iff.rfl).mpr (fits .maximum · (by decide))
    obtain ⟨exclusiveMaximum, exclusiveMaximumDecoded⟩ :=
      (number fun _ => Iff.rfl).mpr (fits .exclusiveMaximum · (by decide))
    obtain ⟨minimum, minimumDecoded⟩ :=
      (number fun _ => Iff.rfl).mpr (fits .minimum · (by decide))
    obtain ⟨exclusiveMinimum, exclusiveMinimumDecoded⟩ :=
      (number fun _ => Iff.rfl).mpr (fits .exclusiveMinimum · (by decide))
    obtain ⟨minLength, minLengthDecoded⟩ :=
      (length fun _ => Iff.rfl).mpr (fits .minLength · (by decide))
    obtain ⟨maxLength, maxLengthDecoded⟩ :=
      (length fun _ => Iff.rfl).mpr (fits .maxLength · (by decide))
    exact ⟨_, id, idDecoded, ref, refDecoded, types, typesDecoded, format', formatDecoded,
      pattern, patternDecoded, multipleOf, multipleOfDecoded, maximum, maximumDecoded,
      exclusiveMaximum, exclusiveMaximumDecoded, minimum, minimumDecoded,
      exclusiveMinimum, exclusiveMinimumDecoded, minLength, minLengthDecoded,
      maxLength, maxLengthDecoded, rfl⟩

theorem keywordsMean_of_decodeKeywords
    {place : Location} {members : Json.Members} {schema : Schema}
    (decoded : decodeKeywords place members = .ok schema) :
    KeywordsMean (.obj members) schema := by
  simp only [decodeKeywords, bind_eq_ok] at decoded
  obtain ⟨id, idDecoded, ref, refDecoded, types, typesDecoded, format, formatDecoded,
    pattern, patternDecoded, multipleOf, multipleOfDecoded, maximum, maximumDecoded,
    exclusiveMaximum, exclusiveMaximumDecoded, minimum, minimumDecoded,
    exclusiveMinimum, exclusiveMinimumDecoded, minLength, minLengthDecoded,
    maxLength, maxLengthDecoded, built⟩ := decoded
  cases built
  have text {keyword value t} : decodeText keyword place value = .ok t → ReadsText value t :=
    decodeText_eq_ok_iff.mp
  have number {keyword value x} : decodeNumber keyword place value = .ok x → ReadsNumber value x :=
    readsNumber_of_decodeNumber
  have length {keyword value n} : decodeLength keyword place value = .ok n → ReadsLength value n :=
    decodeLength_eq_ok_iff.mp
  exact {
    id := denotes_getD (denotes_of_optional (fun _ _ => text) idDecoded)
    ref := denotes_getD (denotes_of_optional (fun _ _ => text) refDecoded)
    types := denotes_getD (denotes_of_optional (fun _ _ => readsTypes_of_decodeType) typesDecoded)
    format := denotes_of_optional (fun _ _ => decodeFormat_eq_ok_iff.mp) formatDecoded
    pattern := denotes_of_optional (fun _ _ => text) patternDecoded
    multipleOf := denotes_of_optional (fun _ _ => number) multipleOfDecoded
    maximum := denotes_of_optional (fun _ _ => number) maximumDecoded
    exclusiveMaximum := denotes_of_optional (fun _ _ => number) exclusiveMaximumDecoded
    minimum := denotes_of_optional (fun _ _ => number) minimumDecoded
    exclusiveMinimum := denotes_of_optional (fun _ _ => number) exclusiveMinimumDecoded
    minLength := denotes_of_optional (fun _ _ => length) minLengthDecoded
    maxLength := denotes_of_optional (fun _ _ => length) maxLengthDecoded }

/-! ## Nodes -/

/-- Decoding the children of a node is decoding what it has under `properties`. -/
theorem decodeProperties_eq
    (place : Location) (members : Json.Members) :
    decodeProperties place members =
      match members.get? Keyword.properties.name with
      | none => .ok []
      | some value => decodeChildMap place value := by
  induction members with
  | nil =>
      rfl
  | cons member rest inductionHypothesis =>
      obtain ⟨name, value⟩ := member
      by_cases same : name = Keyword.properties.name
      · simp [decodeProperties, Json.Members.get?, same]
      · have different : (Keyword.properties.name == name) = false := by simpa using Ne.symm same
        rw [decodeProperties, if_neg same, inductionHypothesis]
        simp [Json.Members.get?, List.lookup_cons, different]

/-- Children decode exactly when each does, in its own place. -/
theorem decodeChildren_eq_ok_iff
    {place : Location} {entries : List (Text × Json.Value)} {properties : List (Text × Schema)} :
    decodeChildren place entries = .ok properties ↔
      List.Forall₂ (fun entry property => property.1 = entry.1 ∧
        decodeNode (place.child entry.1) entry.2 = .ok property.2) entries properties := by
  induction entries generalizing properties with
  | nil =>
      simp [decodeChildren, eq_comm]
  | cons entry rest inductionHypothesis =>
      obtain ⟨name, value⟩ := entry
      simp only [decodeChildren, bind_eq_ok, List.forall₂_cons_left_iff, ← inductionHypothesis]
      constructor
      · rintro ⟨schema, first, others, decoded, last⟩
        cases last
        exact ⟨_, _, ⟨rfl, first⟩, decoded, rfl⟩
      · rintro ⟨⟨name', schema⟩, others, ⟨rfl, first⟩, decoded, rfl⟩
        exact ⟨schema, first, others, decoded, rfl⟩

theorem exists_decodeChildren_iff
    {place : Location} {entries : List (Text × Json.Value)} :
    (∃ properties, decodeChildren place entries = .ok properties) ↔
      ∀ entry ∈ entries, ∃ schema, decodeNode (place.child entry.1) entry.2 = .ok schema := by
  simp only [decodeChildren_eq_ok_iff, exists_aligned_iff]
  refine forall₂_congr fun entry _ => ?_
  constructor
  · rintro ⟨property, -, decoded⟩
    exact ⟨property.2, decoded⟩
  · rintro ⟨schema, decoded⟩
    exact ⟨(entry.1, schema), rfl, decoded⟩

/-- What a node has under `properties` decodes exactly when it is an object and the children do. -/
theorem decodeProperties_eq_ok_iff
    {place : Location} {members : Json.Members} {properties : List (Text × Schema)} :
    decodeProperties place members = .ok properties ↔
      (∀ value, keyword? (.obj members) .properties = some value → Fits .properties value) ∧
        decodeChildren place (children (.obj members)) = .ok properties := by
  rw [decodeProperties_eq, children, keyword?_obj]
  cases members.get? Keyword.properties.name with
  | none =>
      simp [decodeChildren]
  | some value =>
      cases value <;> simp [decodeChildMap, refuse, Fits]

theorem decodeNode_obj_eq_ok_iff
    {place : Location} {members : Json.Members} {schema : Schema} :
    decodeNode place (.obj members) = .ok schema ↔
      ∃ keywords properties, decodeKeywords place members = .ok keywords ∧
        decodeProperties place members = .ok properties ∧
          schema = { keywords with properties } := by
  simp only [decodeNode, bind_eq_ok]
  constructor
  · rintro ⟨keywords, first, properties, second, last⟩
    cases last
    exact ⟨keywords, properties, first, second, rfl⟩
  · rintro ⟨keywords, properties, first, second, rfl⟩
    exact ⟨keywords, first, properties, second, rfl⟩

theorem wellFormed_obj_iff
    {members : Json.Members} :
    WellFormed (.obj members) ↔
      (∀ keyword value, keyword? (.obj members) keyword = some value → Fits keyword value) ∧
        ∀ child ∈ children (.obj members), WellFormed child.2 := by
  constructor
  · rintro ⟨keywords, below⟩
    exact ⟨keywords, below⟩
  · rintro ⟨keywords, below⟩
    exact .node keywords below

/-- A node decodes exactly when it is well formed, in every place. -/
theorem exists_decodeNode_iff
    (node : Json.Value) :
    ∀ place, (∃ schema, decodeNode place node = .ok schema) ↔ WellFormed node := by
  induction node using nodeInduction with
  | step node inductionHypothesis =>
      intro place
      cases node with
      | obj members =>
          have below :
              (∃ properties, decodeChildren place (children (.obj members)) = .ok properties) ↔
                ∀ child ∈ children (.obj members), WellFormed child.2 := by
            rw [exists_decodeChildren_iff]
            exact forall₂_congr fun child member => inductionHypothesis child member _
          rw [wellFormed_obj_iff, ← below]
          simp only [decodeNode_obj_eq_ok_iff, decodeProperties_eq_ok_iff]
          constructor
          · rintro ⟨schema, keywords, properties, first, ⟨map, second⟩, -⟩
            refine ⟨fun keyword value found => ?_, properties, second⟩
            by_cases named : keyword = .properties
            · subst named
              exact map value found
            · exact exists_decodeKeywords_iff.mp ⟨keywords, first⟩ keyword value named found
          · rintro ⟨fits, properties, second⟩
            obtain ⟨keywords, first⟩ :=
              exists_decodeKeywords_iff.mpr fun keyword value _ => fits keyword value
            exact ⟨_, keywords, properties, first, ⟨fits .properties, second⟩, rfl⟩
      | _ =>
          constructor
          · rintro ⟨schema, decoded⟩
            cases decoded
          · intro fits
            cases fits

theorem KeywordsMean.withProperties
    {node : Json.Value} {schema : Schema}
    (keywords : KeywordsMean node schema)
    (properties : List (Text × Schema)) :
    KeywordsMean node { schema with properties } :=
  { keywords with }

/-- A node that decodes yields what it means, in every place. -/
theorem means_of_decodeNode
    (node : Json.Value) :
    ∀ {place schema}, decodeNode place node = .ok schema → Means node schema := by
  induction node using nodeInduction with
  | step node inductionHypothesis =>
      intro place schema decoded
      cases node with
      | obj members =>
          obtain ⟨keywords, properties, first, second, rfl⟩ := decodeNode_obj_eq_ok_iff.mp decoded
          have aligned := decodeChildren_eq_ok_iff.mp (decodeProperties_eq_ok_iff.mp second).2
          refine .node ((keywordsMean_of_decodeKeywords first).withProperties properties) ?_ ?_
          · exact (map_eq_of_aligned (fun _ _ both => both.1.symm) aligned).symm
          · intro pair member
            exact inductionHypothesis pair.1 (List.of_mem_zip member).1
              (List.forall₂_zip aligned member).2
      | _ =>
          cases decoded

/-- What a node decodes to is the one schema that it means. -/
theorem decodeNode_eq_ok_iff
    {place : Location} {node : Json.Value} {schema : Schema} :
    decodeNode place node = .ok schema ↔ WellFormed node ∧ Means node schema := by
  constructor
  · intro decoded
    exact ⟨(exists_decodeNode_iff node place).mp ⟨schema, decoded⟩,
      means_of_decodeNode node decoded⟩
  · rintro ⟨wellFormed, means⟩
    obtain ⟨other, decoded⟩ := (exists_decodeNode_iff node place).mpr wellFormed
    rwa [Means.unique node means (means_of_decodeNode node decoded)]

/-- Decoding accepts exactly the well formed values, and what it yields is exactly what they
mean. -/
theorem ofValue_accepts_wellFormed_and_yields_meaning
    (value : Json.Value) :
    ((∃ schema, ofValue value = .ok schema) ↔ WellFormed value) ∧
      ∀ schema, ofValue value = .ok schema ↔ WellFormed value ∧ Means value schema :=
  ⟨exists_decodeNode_iff value {}, fun _ => decodeNode_eq_ok_iff⟩

end RecordGen.Schema
