import RecordGen.Proofs.Schema.Faults

/-!
# The first fault of a schema

Which error decoding reports. The checks of a node are made in a fixed order, and those of its children
behind its own, each child completely before the next. The error is the one of the first check that
fails, it names the node by the way from the root, and the node alone gives the same error.
-/

namespace RecordGen.Schema

/-! ## The keywords of a node -/

section Checks

variable {α β : Type} {place : Location} {members : Json.Members} {keyword : Keyword}
  {failure : DecodeFailure}

/-- A step checks a keyword of a node: it fails as the keyword is refused, and else the keyword
passes. -/
structure Checks (place : Location) (members : Json.Members) (keyword : Keyword)
    (step : Decoding α) : Prop where
  failed : ∀ failure, step = .error failure ↔
    ∃ value, keyword? (.obj members) keyword = some value ∧ Refuses place keyword value failure
  passed : (∃ field, step = .ok field) ↔ Passes (.obj members) keyword

theorem checks_optional
    {decode : Keyword → Location → Json.Value → Decoding α}
    (refuses : ∀ value failure, decode keyword place value = .error failure ↔
      Refuses place keyword value failure)
    (fits : ∀ value, (∃ a, decode keyword place value = .ok a) ↔ Fits keyword value) :
    Checks place members keyword (optional decode members place keyword) := by
  refine ⟨fun failure => ?_, exists_optional_iff fits⟩
  rw [keyword?_obj, optional]
  cases members.get? keyword.name with
  | none => simp
  | some value => simp [map_eq_error, refuses]

theorem checks_text
    (keyword : Keyword)
    (refuses : ∀ value failure, Refuses place keyword value failure ↔
      RefusesText place keyword value failure)
    (fits : ∀ value, Fits keyword value ↔ ∃ t, value = .str t) :
    Checks place members keyword (optional decodeText members place keyword) := by
  refine checks_optional (fun value failure => ?_) fun value => ?_
  · rw [decodeText_eq_error_iff, refuses]
  · simp only [decodeText_eq_ok_iff, ReadsText, fits]

theorem checks_number
    (keyword : Keyword)
    (refuses : ∀ value failure, Refuses place keyword value failure ↔
      RefusesNumber place keyword value failure)
    (fits : ∀ value, Fits keyword value ↔ IsNumberValue value) :
    Checks place members keyword (optional decodeNumber members place keyword) := by
  refine checks_optional (fun value failure => ?_) fun value => ?_
  · rw [decodeNumber_eq_error_iff, refuses]
  · rw [exists_decodeNumber_iff, fits]

theorem checks_length
    (keyword : Keyword)
    (refuses : ∀ value failure, Refuses place keyword value failure ↔
      RefusesLength place keyword value failure)
    (fits : ∀ value, Fits keyword value ↔ ∃ n : Nat, value.number? = some (n : ℚ)) :
    Checks place members keyword (optional decodeLength members place keyword) := by
  refine checks_optional (fun value failure => ?_) fun value => ?_
  · rw [decodeLength_eq_error_iff, refuses]
  · simp only [decodeLength_eq_ok_iff, ReadsLength, fits]

theorem checks_type :
    Checks place members .type (optional (fun _ => decodeType) members place .type) :=
  checks_optional (fun _ _ => decodeType_eq_error_iff) fun _ => exists_decodeType_iff

theorem checks_format :
    Checks place members .format (optional (fun _ => decodeFormat) members place .format) := by
  refine checks_optional (fun _ _ => decodeFormat_eq_error_iff) fun value => ?_
  simp only [decodeFormat_eq_ok_iff, ReadsFormat, Fits]

theorem not_firstRefused_nil
    {node : Json.Value} :
    ¬ FirstRefused place node [] failure := by
  rintro ⟨⟩

theorem firstRefused_cons_iff
    {node : Json.Value} {rest : List Keyword} :
    FirstRefused place node (keyword :: rest) failure ↔
      (∃ value, keyword? node keyword = some value ∧ Refuses place keyword value failure) ∨
        Passes node keyword ∧ FirstRefused place node rest failure := by
  constructor
  · intro first
    cases first with
    | here found refused => exact Or.inl ⟨_, found, refused⟩
    | later passes later => exact Or.inr ⟨passes, later⟩
  · rintro (⟨value, found, refused⟩ | ⟨passes, later⟩)
    · exact .here found refused
    · exact .later passes later

/-- Behind the check of a keyword come those of the keywords after it. -/
theorem Checks.bind_eq_error_iff
    {step : Decoding α} {next : α → Decoding β} {rest : List Keyword}
    (checks : Checks place members keyword step)
    (behind : ∀ field, next field = .error failure ↔
      FirstRefused place (.obj members) rest failure) :
    (step >>= next) = .error failure ↔
      FirstRefused place (.obj members) (keyword :: rest) failure := by
  rw [bind_eq_error, firstRefused_cons_iff, checks.failed, ← checks.passed]
  refine or_congr_right ?_
  constructor
  · rintro ⟨field, done, later⟩
    exact ⟨⟨field, done⟩, (behind field).mp later⟩
  · rintro ⟨⟨field, done⟩, later⟩
    exact ⟨field, done, (behind field).mpr later⟩

/-- The keywords of a node fail because of the first that is refused. -/
theorem decodeKeywords_eq_error_iff :
    decodeKeywords place members = .error failure ↔
      FirstRefused place (.obj members) plainKeywords failure := by
  unfold decodeKeywords
  apply (checks_text .id (fun _ _ => Iff.rfl) fun _ => Iff.rfl).bind_eq_error_iff
  intro id
  apply (checks_text .ref (fun _ _ => Iff.rfl) fun _ => Iff.rfl).bind_eq_error_iff
  intro ref
  apply checks_type.bind_eq_error_iff
  intro types
  apply checks_format.bind_eq_error_iff
  intro format
  apply (checks_text .pattern (fun _ _ => Iff.rfl) fun _ => Iff.rfl).bind_eq_error_iff
  intro pattern
  apply (checks_number .multipleOf (fun _ _ => Iff.rfl) fun _ => Iff.rfl).bind_eq_error_iff
  intro multipleOf
  apply (checks_number .maximum (fun _ _ => Iff.rfl) fun _ => Iff.rfl).bind_eq_error_iff
  intro maximum
  apply (checks_number .exclusiveMaximum (fun _ _ => Iff.rfl)
    fun _ => Iff.rfl).bind_eq_error_iff
  intro exclusiveMaximum
  apply (checks_number .minimum (fun _ _ => Iff.rfl) fun _ => Iff.rfl).bind_eq_error_iff
  intro minimum
  apply (checks_number .exclusiveMinimum (fun _ _ => Iff.rfl)
    fun _ => Iff.rfl).bind_eq_error_iff
  intro exclusiveMinimum
  apply (checks_length .minLength (fun _ _ => Iff.rfl) fun _ => Iff.rfl).bind_eq_error_iff
  intro minLength
  apply (checks_length .maxLength (fun _ _ => Iff.rfl) fun _ => Iff.rfl).bind_eq_error_iff
  intro maxLength
  exact iff_of_false (fun same => by cases same) not_firstRefused_nil

end Checks

/-! ## Nodes -/

section Nodes

variable {place : Location} {members : Json.Members} {failure : DecodeFailure}

theorem firstRefused_append_iff
    {node : Json.Value} {first rest : List Keyword} :
    FirstRefused place node (first ++ rest) failure ↔
      FirstRefused place node first failure ∨
        (∀ keyword ∈ first, Passes node keyword) ∧ FirstRefused place node rest failure := by
  induction first with
  | nil =>
      simp [not_firstRefused_nil]
  | cons keyword others inductionHypothesis =>
      rw [List.cons_append, firstRefused_cons_iff, firstRefused_cons_iff, inductionHypothesis,
        List.forall_mem_cons, and_or_left, or_assoc, and_assoc]

theorem forall_plainKeywords_iff
    {holds : Keyword → Prop}
    (whole : holds .schema) :
    (∀ keyword ∈ plainKeywords, holds keyword) ↔ ∀ keyword, keyword ≠ .properties → holds keyword := by
  constructor
  · intro each keyword different
    cases keyword with
    | schema => exact whole
    | properties => exact absurd rfl different
    | _ => exact each _ (by decide)
  · intro each keyword member
    refine each keyword ?_
    rintro rfl
    exact absurd member (by decide)

/-- Children fail because of the first that fails, the ones before it being well formed. -/
theorem decodeChildren_eq_error_iff
    {entries : List (Text × Json.Value)} :
    decodeChildren place entries = .error failure ↔
      ∃ before name inner after, entries = before ++ (name, inner) :: after ∧
        (∀ earlier ∈ before, WellFormed earlier.2) ∧
          decodeNode (place.child name) inner = .error failure := by
  induction entries with
  | nil =>
      simp [decodeChildren]
  | cons entry rest inductionHypothesis =>
      obtain ⟨name, value⟩ := entry
      simp only [decodeChildren, bind_eq_error]
      constructor
      · rintro (first | ⟨schema, decoded, later | ⟨others, -, last⟩⟩)
        · exact ⟨[], name, value, rest, rfl, by simp, first⟩
        · obtain ⟨before, name', inner, after, rfl, fine, failed⟩ := inductionHypothesis.mp later
          have own : WellFormed value := (exists_decodeNode_iff value _).mp ⟨schema, decoded⟩
          exact ⟨(name, value) :: before, name', inner, after, rfl,
            List.forall_mem_cons.mpr ⟨own, fine⟩, failed⟩
        · cases last
      · rintro ⟨before, name', inner, after, split, fine, failed⟩
        cases before with
        | nil =>
            cases split
            exact Or.inl failed
        | cons first before =>
            cases split
            obtain ⟨own, others⟩ := List.forall_mem_cons.mp fine
            obtain ⟨schema, decoded⟩ := (exists_decodeNode_iff value (place.child name)).mpr own
            have later := inductionHypothesis.mpr ⟨before, name', inner, after, rfl, others, failed⟩
            exact Or.inr ⟨schema, decoded, Or.inl later⟩

theorem decodeProperties_eq_error_iff :
    decodeProperties place members = .error failure ↔
      FirstRefused place (.obj members) [.properties] failure ∨
        Passes (.obj members) .properties ∧
          decodeChildren place (children (.obj members)) = .error failure := by
  rw [firstRefused_cons_iff, decodeProperties_eq, children, Passes, keyword?_obj]
  cases members.get? Keyword.properties.name with
  | none =>
      simp [decodeChildren, not_firstRefused_nil]
  | some value =>
      cases value <;>
        simp [decodeChildMap, refuse, Fits, Refuses, RefusesObject, not_firstRefused_nil, eq_comm]

/-- A node fails by itself, or all its keywords pass and its children fail. -/
theorem decodeNode_obj_eq_error_iff :
    decodeNode place (.obj members) = .error failure ↔
      FirstRefused place (.obj members) checkedKeywords failure ∨
        (∀ keyword, Passes (.obj members) keyword) ∧
          decodeChildren place (children (.obj members)) = .error failure := by
  have trivialKeyword : Passes (.obj members) .schema := fun _ _ => trivial
  have passed : (∃ schema, decodeKeywords place members = .ok schema) ↔
      ∀ keyword ∈ plainKeywords, Passes (.obj members) keyword := by
    rw [exists_decodeKeywords_iff, forall_plainKeywords_iff trivialKeyword]
    exact ⟨fun each keyword different value => each keyword value different,
      fun each keyword value different => each keyword different value⟩
  have all : (∀ keyword, Passes (.obj members) keyword) ↔
      (∀ keyword ∈ plainKeywords, Passes (.obj members) keyword) ∧
        Passes (.obj members) .properties := by
    rw [forall_plainKeywords_iff trivialKeyword]
    constructor
    · exact fun each => ⟨fun keyword _ => each keyword, each .properties⟩
    · rintro ⟨others, last⟩ keyword
      by_cases same : keyword = .properties
      · rw [same]
        exact last
      · exact others keyword same
  rw [checkedKeywords, firstRefused_append_iff, all, ← passed, ← decodeKeywords_eq_error_iff]
  simp only [decodeNode, bind_eq_error, decodeProperties_eq_error_iff]
  constructor
  · rintro (first | ⟨schema, decoded, (own | ⟨last, below⟩) | ⟨others, -, impossible⟩⟩)
    · exact Or.inl (Or.inl first)
    · exact Or.inl (Or.inr ⟨⟨schema, decoded⟩, own⟩)
    · exact Or.inr ⟨⟨⟨schema, decoded⟩, last⟩, below⟩
    · cases impossible
  · rintro ((first | ⟨⟨schema, decoded⟩, own⟩) | ⟨⟨⟨schema, decoded⟩, last⟩, below⟩)
    · exact Or.inl first
    · exact Or.inr ⟨schema, decoded, Or.inl (Or.inl own)⟩
    · exact Or.inr ⟨schema, decoded, Or.inl (Or.inr ⟨last, below⟩)⟩

theorem nodeFault_obj_iff :
    NodeFault place (.obj members) failure ↔
      FirstRefused place (.obj members) checkedKeywords failure := by
  constructor
  · intro fault
    cases fault with
    | shape refused => exact absurd rfl (refused.1 members)
    | keyword first => exact first
  · exact .keyword

/-- Decoding a node fails at the node that it reaches first among those with a fault of their own. -/
theorem decodeNode_eq_error_iff
    (node : Json.Value) :
    ∀ {place failure}, decodeNode place node = .error failure ↔
      ∃ steps found, Reaches node steps found ∧ NodeFault (place.below steps) found failure := by
  -- A node is checked itself before any child is decoded, and the children in their order.
  induction node using nodeInduction with
  | step node inductionHypothesis =>
      intro place failure
      cases node with
      | obj members =>
          rw [decodeNode_obj_eq_error_iff, decodeChildren_eq_error_iff]
          constructor
          · rintro (own | ⟨passes, before, name, inner, after, split, fine, failed⟩)
            · exact ⟨[], _, .here _, by simpa using nodeFault_obj_iff.mpr own⟩
            · have member : (name, inner) ∈ children (.obj members) := by simp [split]
              obtain ⟨steps, found, reached, fault⟩ := (inductionHypothesis _ member).mp failed
              rw [Location.below_child] at fault
              exact ⟨name :: steps, found, .child passes split fine reached, fault⟩
          · rintro ⟨steps, found, reached, fault⟩
            cases reached with
            | here =>
                rw [Location.below_nil] at fault
                exact Or.inl (nodeFault_obj_iff.mp fault)
            | @child _ before after name inner _ steps passes split fine reached =>
                have member : (name, inner) ∈ children (.obj members) := by simp [split]
                rw [← Location.below_child] at fault
                have failed := (inductionHypothesis _ member).mpr ⟨steps, found, reached, fault⟩
                exact Or.inr ⟨passes, before, name, inner, after, split, fine, failed⟩
      | _ =>
          simp only [decodeNode, refuse, Except.error.injEq]
          constructor
          · rintro rfl
            refine ⟨[], _, .here _, .shape ⟨by simp, ?_⟩⟩
            rw [Location.below_nil]
          · rintro ⟨steps, found, reached, fault⟩
            cases reached
            cases fault with
            | shape refused =>
                rw [refused.2, Location.below_nil]

end Nodes

/-! ## Faults and their places -/

section Places

variable {keyword : Keyword} {value node : Json.Value} {steps : List Text} {failure : DecodeFailure}

/-- The path of an error: the root, the names on the way to the node, and the keyword if one of its
words is to blame. -/
def IsPath (steps : List Text) (error : DecodeError) : Prop :=
  error.place.text =
    Text.ofString "#" ++ steps.flatMap (fun name => Text.ofString "/properties/" ++ name) ++
      error.suffix

/-- A failure of a node that is reached by some steps: the node alone fails in the same way, and an
error has the path of the node. -/
structure ComesFrom (steps : List Text) (alone failure : DecodeFailure) : Prop where
  same : failure = alone.movedTo steps
  path : ∀ error, failure = .error error → IsPath steps error

theorem comesFrom_error
    {alone error : DecodeError}
    (same : error = alone.movedTo steps)
    (path : IsPath steps error) :
    ComesFrom steps (.error alone) (.error error) := by
  refine ⟨congrArg DecodeFailure.error same, ?_⟩
  rintro _ ⟨⟩
  exact path

theorem comesFrom_outOfRange : ComesFrom steps .outOfRange .outOfRange := by
  refine ⟨rfl, ?_⟩
  rintro _ ⟨⟩

/-- A keyword that is refused at the end of some steps is refused in the same way where decoding
starts. -/
theorem exists_comesFrom_of_refuses
    (refused : Refuses { steps } keyword value failure) :
    ∃ alone, Refuses {} keyword value alone ∧ ComesFrom steps alone failure := by
  -- A refusal puts the place into its error but does not look at it.
  have text {keyword} (refused : RefusesText { steps } keyword value failure) :
      ∃ alone, RefusesText {} keyword value alone ∧ ComesFrom steps alone failure := by
    obtain ⟨noText, rfl⟩ := refused
    exact ⟨_, ⟨noText, rfl⟩, comesFrom_error rfl rfl⟩
  have number {keyword} (refused : RefusesNumber { steps } keyword value failure) :
      ∃ alone, RefusesNumber {} keyword value alone ∧ ComesFrom steps alone failure := by
    cases refused with
    | shape noInt noFloat =>
        exact ⟨_, .shape noInt noFloat, comesFrom_error rfl rfl⟩
    | overflow large =>
        exact ⟨_, .overflow large, comesFrom_outOfRange⟩
  have length {keyword} (refused : RefusesLength { steps } keyword value failure) :
      ∃ alone, RefusesLength {} keyword value alone ∧ ComesFrom steps alone failure := by
    cases refused with
    | @negative i equal less =>
        exact ⟨_, .negative equal less, comesFrom_error rfl rfl⟩
    | shape noInteger =>
        exact ⟨_, .shape noInteger, comesFrom_error rfl rfl⟩
  cases keyword with
  | schema => exact refused.elim
  | id => exact text refused
  | ref => exact text refused
  | pattern => exact text refused
  | type =>
      cases refused with
      | token unnamed =>
          exact ⟨_, .token unnamed, comesFrom_error rfl rfl⟩
      | shape noText noItems =>
          exact ⟨_, .shape noText noItems, comesFrom_error rfl rfl⟩
      | itemToken words unnamed =>
          exact ⟨_, .itemToken words unnamed, comesFrom_error rfl rfl⟩
      | itemShape words noText =>
          exact ⟨_, .itemShape words noText, comesFrom_error rfl rfl⟩
  | format =>
      cases refused with
      | token unnamed =>
          exact ⟨_, .token unnamed, comesFrom_error rfl rfl⟩
      | shape noText =>
          exact ⟨_, .shape noText, comesFrom_error rfl rfl⟩
  | multipleOf => exact number refused
  | maximum => exact number refused
  | exclusiveMaximum => exact number refused
  | minimum => exact number refused
  | exclusiveMinimum => exact number refused
  | minLength => exact length refused
  | maxLength => exact length refused
  | properties =>
      obtain ⟨noObject, rfl⟩ := refused
      exact ⟨_, ⟨noObject, rfl⟩, comesFrom_error rfl rfl⟩

theorem exists_comesFrom_of_firstRefused
    {keywords : List Keyword}
    (first : FirstRefused { steps } node keywords failure) :
    ∃ alone, FirstRefused {} node keywords alone ∧ ComesFrom steps alone failure := by
  induction first with
  | here found refused =>
      obtain ⟨alone, refused', comesFrom⟩ := exists_comesFrom_of_refuses refused
      exact ⟨alone, .here found refused', comesFrom⟩
  | later passes _ inductionHypothesis =>
      obtain ⟨alone, first', comesFrom⟩ := inductionHypothesis
      exact ⟨alone, .later passes first', comesFrom⟩

/-- A node with a fault of its own has it wherever it is. -/
theorem NodeFault.exists_comesFrom
    (fault : NodeFault { steps } node failure) :
    ∃ alone, NodeFault {} node alone ∧ ComesFrom steps alone failure := by
  cases fault with
  | shape refused =>
      obtain ⟨noObject, rfl⟩ := refused
      exact ⟨_, .shape ⟨noObject, rfl⟩, comesFrom_error rfl rfl⟩
  | keyword first =>
      obtain ⟨alone, first', comesFrom⟩ := exists_comesFrom_of_firstRefused first
      exact ⟨alone, .keyword first', comesFrom⟩

end Places

/-- Decoding reports the first fault at the right place. It fails exactly at the node that it reaches
first among those with a fault of their own, by the first check of that node; the node alone fails in
the same way, and the path of an error leads from the root to the node. -/
theorem ofValue_reports_first_fault
    (value : Json.Value) (failure : DecodeFailure) :
    (ofValue value = .error failure ↔
      ∃ steps node, Reaches value steps node ∧ NodeFault { steps } node failure) ∧
    (ofValue value = .error failure →
      ∃ steps node alone, Reaches value steps node ∧ NodeFault {} node alone ∧
        ofValue node = .error alone ∧ failure = alone.movedTo steps ∧
          ∀ error, failure = .error error → IsPath steps error) := by
  have exact_fault : ofValue value = .error failure ↔
      ∃ steps node, Reaches value steps node ∧ NodeFault { steps } node failure :=
    decodeNode_eq_error_iff value
  refine ⟨exact_fault, fun failed => ?_⟩
  obtain ⟨steps, node, reached, fault⟩ := exact_fault.mp failed
  obtain ⟨alone, own, comesFrom⟩ := fault.exists_comesFrom
  have failsAlone : ofValue node = .error alone :=
    (decodeNode_eq_error_iff node).mpr ⟨[], node, .here node, own⟩
  exact ⟨steps, node, alone, reached, own, failsAlone, comesFrom.same, comesFrom.path⟩

end RecordGen.Schema
