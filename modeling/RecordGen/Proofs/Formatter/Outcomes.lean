import RecordGen.Proofs.Formatter.Check
import RecordGen.Proofs.Formatter.Words

/-!
# Outcomes of formatting

Formatter options are kept as they are given, so each of them is looked at only where it is used. If
they are of the kinds that are looked for there, nothing about them ends a run of a formatter: what is
left is an error of the generator, a text that the check refuses, or the command that does not run or
prints no text.
-/

namespace RecordGen

namespace FormatterSettings

/-- A line length: a number, or a truth value, which counts as one. -/
def IsLength (value : Json.Value) : Prop := (∃ i, value = .int i) ∨ ∃ b, value = .bool b

/-- A target version: a text that a command can be handed, or a value that counts as false and sets
none. -/
def IsVersion (value : Json.Value) : Prop := Formatter.IsPlainWord value ∨ value.isTruthy = false

/-- A flag of the layout, which has to be a truth value. -/
def IsFlag (value : Json.Value) : Prop := ∃ b, value = .bool b

/-- The options are of the kinds that the formatters look for. -/
structure HasKinds (s : FormatterSettings) : Prop where
  lineLength : IsLength s.lineLength
  spelled : s.lineLength.isSpellable = true
  targetVersion : IsVersion s.targetVersion
  stringNormalization : IsFlag s.stringNormalization
  magicTrailingComma : IsFlag s.magicTrailingComma

theorem hasKinds_default : ({} : FormatterSettings).HasKinds where
  lineLength := Or.inl ⟨100, rfl⟩
  spelled := by decide +kernel
  targetVersion := Or.inl (Formatter.isPlainWord_literal (by decide) (by decide))
  stringNormalization := ⟨true, rfl⟩
  magicTrailingComma := ⟨true, rfl⟩

end FormatterSettings

namespace Formatter

/-- What a formatter complains of: it is not installed, the code is none, or the target version is
unknown or cannot read it; a command complains in its own words. -/
inductive Complaint : GeneratorError → Prop
  | missing (formatter : FormatterName) :
      Complaint (.formatting formatter (.notInstalled formatter.text))
  | refusal (formatter : FormatterName) : Complaint (.formatting formatter .invalidSyntax)
  | target (version : Text) : Complaint (.formatting .black (.unknownTarget version))
  | unreadable : Complaint (.formatting .black .unreadable)
  | command (reason : Text) : Complaint (.formatting .ruff (.commandFailed reason))

/-- Every call is answered by a process that is handed its words. -/
def Environment.IsSpawned (environment : Environment) : Prop :=
  ∃ process, environment = subprocess process

/-- How a call of plain words comes to nothing: the command is missing, the system refuses to run it, or
what it prints is no encoded text. -/
inductive IsObstacle (environment : Environment) (executable : Text) : Failure → Prop
  | missing {calls : List Call} {c : Call} :
      environment calls c = .missing → IsObstacle environment executable (.system .notFound executable)
  | forbidden {calls : List Call} {c : Call} :
      environment calls c = .broken .forbidden →
        IsObstacle environment executable (.system .notPermitted executable)
  | tooLong {calls : List Call} {c : Call} :
      c.IsPlain → environment calls c = .broken .tooLong →
        IsObstacle environment executable (.settings (.argumentsTooLong executable))
  | undecodable {calls : List Call} {c : Call} {printed : Bytes} {error : EncodingError} :
      environment calls c = .broken (.undecodable printed error) →
        IsObstacle environment executable (.settings (.undecodableOutput printed error))

variable {tools : Toolbox} {code : Text} {s : FormatterSettings} {failure : Failure}

/-! ## The layout formatter -/

theorem target_eq_error
    (version : FormatterSettings.IsVersion s.targetVersion)
    (failed : target s = .error failure) :
    ∃ error, failure = .generator error ∧ Complaint error := by
  unfold target at failed
  split at failed
  · split at failed
    · cases failed
    · split at failed <;> cases failed
      exact ⟨_, rfl, .target _⟩
  · rename_i noText
    rcases version with plain | unset
    · obtain ⟨t, isText⟩ := exists_text_of_wordFault? plain.handed
      exact absurd isText (noText t)
    · rw [unset] at failed
      cases failed

theorem layoutOptions_eq_error
    (kinds : s.HasKinds)
    (failed : layoutOptions s = .error failure) :
    ∃ error, failure = .generator error ∧ Complaint error := by
  obtain ⟨length, -, version, ⟨normalizes, isFlag⟩, heeds, isFlag'⟩ := kinds
  have isNumber : ∃ i, integerOption s.lineLength = .ok i := by
    rcases length with ⟨i, isInt⟩ | ⟨b, isBool⟩
    · exact ⟨i, by rw [isInt]; rfl⟩
    · exact ⟨_, by rw [isBool]; rfl⟩
  obtain ⟨i, number⟩ := isNumber
  unfold layoutOptions at failed
  rw [number, isFlag, isFlag'] at failed
  rcases bind_eq_error.mp failed with unknown | ⟨minor, -, rest⟩
  · exact target_eq_error version unknown
  · cases rest

/-- What ends a layout is an error of the generator, or the code. -/
theorem layOut_eq_error
    {installed : Bool}
    (kinds : s.HasKinds)
    (failed : layOut installed code s = .error failure) :
    (∃ error, failure = .generator error ∧ Complaint error) ∨
      ∃ fault, Source.parse code = .error fault ∧ failure = sourceFailure .black fault := by
  unfold layOut at failed
  split at failed
  · cases failed
    exact Or.inl ⟨_, rfl, .missing .black⟩
  · split at failed
    · rename_i fault refused
      cases failed
      exact Or.inr ⟨fault, Source.check_eq_error_iff.mp refused, rfl⟩
    · rcases bind_eq_error.mp failed with unusable | ⟨options, -, rest⟩
      · exact Or.inl (layoutOptions_eq_error kinds unusable)
      · split at rest <;> cases rest
        exact Or.inl ⟨_, rfl, .unreadable⟩

/-! ## The external formatter -/

theorem isPlain_probe (formatter : FormatterName) : (Tool.probe formatter.text).IsPlain := by
  simp only [Call.IsPlain, Tool.probe, List.forall_mem_cons]
  refine ⟨?_, isPlainWord_literal (by decide) (by decide), by simp⟩
  cases formatter <;> exact isPlainWord_literal (by decide) (by decide)

/-- A line length is spelled as a plain word. -/
theorem isPlainWord_plain
    {value : Json.Value}
    (length : FormatterSettings.IsLength value)
    (spelled : value.isSpellable = true) :
    IsPlainWord (.str value.plain) := by
  rcases length with ⟨i, rfl⟩ | ⟨b, rfl⟩
  · exact isPlainWord_ofInt spelled
  · cases b <;> exact isPlainWord_literal (by decide) (by decide)

theorem isPlain_formatCall
    {formatter : FormatterName}
    (kinds : s.HasKinds) :
    (Tool.formatCall formatter.text code s).IsPlain := by
  have named : IsPlainWord (.str formatter.text) := isPlain_probe formatter _ List.mem_cons_self
  have option {name : String} {value word : Json.Value}
      (plain : IsPlainWord (.str (.ofString name)))
      (given : value.isTruthy = true → IsPlainWord word) :
      ∀ w ∈ (if value.isTruthy then [Json.Value.str (.ofString name), word] else []),
        IsPlainWord w := by
    split
    · rename_i isSet
      simp [plain, given isSet]
    · simp
  simp only [Call.IsPlain, Tool.formatCall, List.forall_mem_append, List.forall_mem_cons]
  refine ⟨⟨⟨named, ?_, ?_, ?_, by simp⟩, option ?_ fun _ => ?_⟩, option ?_ fun isSet => ?_⟩
  · exact isPlainWord_literal (by decide) (by decide)
  · exact isPlainWord_literal (by decide) (by decide)
  · exact isPlainWord_literal (by decide) (by decide)
  · exact isPlainWord_literal (by decide) (by decide)
  · exact isPlainWord_plain kinds.lineLength kinds.spelled
  · exact isPlainWord_literal (by decide) (by decide)
  · rcases kinds.targetVersion with plain | unset
    · exact plain
    · rw [unset] at isSet
      cases isSet

section Spawned

variable {environment : Environment} {executable : Text} {calls : List Call} {c : Call}

/-- A call of plain words breaks off only where its process does. -/
theorem isObstacle_of_broken
    {fault : CallFault}
    (spawned : environment.IsSpawned)
    (plain : c.IsPlain)
    (broke : environment calls c = .broken fault) :
    IsObstacle environment executable (fault.failure executable) := by
  cases fault with
  | word fault =>
      obtain ⟨process, rfl⟩ := spawned
      rw [subprocess_of_isPlain plain] at broke
      exact absurd broke (outcome_ne_word _ _)
  | forbidden => exact .forbidden broke
  | tooLong => exact .tooLong plain broke
  | undecodable printed error => exact .undecodable broke

theorem isAvailable_eq_error
    {tool tool' : Tool}
    (spawned : environment.IsSpawned)
    (plain : (Tool.probe executable).IsPlain)
    (failed : tool.isAvailable environment executable = (.error failure, tool')) :
    IsObstacle environment executable failure := by
  unfold Tool.isAvailable at failed
  split at failed
  · cases failed
  · simp only [Tool.call] at failed
    split at failed <;> cases failed
    rename_i broke
    exact isObstacle_of_broken spawned plain broke

/-- What ends a call that formats code is an error of the generator, or that the command does not run or
prints no text. -/
theorem result_eq_error
    (spawned : environment.IsSpawned)
    (plain : c.IsPlain)
    (failed : Tool.result executable c (environment calls c) = .error failure) :
    (∃ error, failure = .generator error ∧ Complaint error) ∨
      IsObstacle environment executable failure := by
  unfold Tool.result at failed
  split at failed
  · split at failed <;> cases failed
    exact Or.inl ⟨_, rfl, .command _⟩
  · cases failed
    exact Or.inl ⟨_, rfl, .command _⟩
  · cases failed
    exact Or.inl ⟨_, rfl, .command _⟩
  · rename_i gone
    cases failed
    exact Or.inr (.missing gone)
  · rename_i broke
    cases failed
    exact Or.inr (isObstacle_of_broken spawned plain broke)

end Spawned

theorem spellsLength_of_isSpellable
    (spelled : s.lineLength.isSpellable = true) :
    Tool.spellsLength s = true := by
  rw [Tool.spellsLength, spelled, Bool.or_true]

/-- What ends a run of a formatter whose options have their kinds is an error of the generator, a
command that does not run or prints no text, or the code. -/
theorem run_eq_error
    {formatter : FormatterName}
    (spawned : tools.environment.IsSpawned)
    (kinds : s.HasKinds)
    (failed : run tools formatter code s = .error failure) :
    (∃ error, failure = .generator error ∧ Complaint error) ∨
      IsObstacle tools.environment FormatterName.ruff.text failure ∨
        ∃ fault, Source.parse code = .error fault ∧ failure = sourceFailure formatter fault := by
  cases formatter with
  | black =>
      exact (layOut_eq_error kinds failed).imp_right Or.inr
  | ruff =>
      simp only [run, Tool.format] at failed
      split at failed
      · rename_i unavailable
        cases failed
        exact Or.inr (Or.inl (isAvailable_eq_error spawned (isPlain_probe .ruff) unavailable))
      · cases failed
        exact Or.inl ⟨_, rfl, .missing .ruff⟩
      · split at failed
        · rename_i fault refused
          cases failed
          exact Or.inr (Or.inr ⟨fault, Source.check_eq_error_iff.mp refused, rfl⟩)
        · rw [if_pos (spellsLength_of_isSpellable kinds.spelled)] at failed
          have made : (Tool.formatCall FormatterName.ruff.text code s).IsPlain :=
            isPlain_formatCall kinds
          exact (result_eq_error spawned made failed).imp_right Or.inl

/-- A target version that no command can be handed ends the run of a formatter that is ready, though all
other options have their kinds. -/
theorem run_of_wordFault
    {fault : WordFault}
    (spawned : tools.environment.IsSpawned)
    (ready : IsReady tools .ruff)
    (accepted : Source.check code = .ok ())
    (kinds : ({ s with targetVersion := .null } : FormatterSettings).HasKinds)
    (isSet : s.targetVersion.isTruthy = true)
    (faulty : wordFault? s.targetVersion = some fault) :
    run tools .ruff code s = .error fault.failure := by
  have command : (Tool.formatCall FormatterName.ruff.text code s).command =
      (Tool.formatCall FormatterName.ruff.text code { s with targetVersion := .null }).command ++
        [.str (.ofString "--target-version"), s.targetVersion] := by
    have unset : Json.Value.null.isTruthy = false := rfl
    simp [Tool.formatCall, isSet, unset]
  have plain : (Tool.formatCall FormatterName.ruff.text code
      { s with targetVersion := .null }).wordFault? = none :=
    wordFault?_of_isPlain (isPlain_formatCall kinds)
  have option : wordFault? (.str (.ofString "--target-version")) = none :=
    (isPlainWord_literal (by decide) (by decide)).handed
  -- The first word with a fault is the version, since the words before it have none.
  have refused : (Tool.formatCall FormatterName.ruff.text code s).wordFault? = some fault := by
    rw [Call.wordFault?] at plain ⊢
    rw [command, List.findSome?_append, plain]
    simp [List.findSome?, option, faulty]
  obtain ⟨process, environment⟩ := spawned
  obtain ⟨tool, available⟩ : ∃ tool,
      Tool.isAvailable tools.environment FormatterName.ruff.text {} = (.ok true, tool) :=
    ⟨_, Prod.ext ready rfl⟩
  have spelled : Tool.spellsLength s = true := spellsLength_of_isSpellable kinds.spelled
  rw [run, Tool.format, available]
  dsimp only
  rw [accepted]
  simp only [spelled, if_true, Tool.call, environment, subprocess, refused]
  rfl

/-- The text is what a formatter has made of some code. -/
def IsFormatted (tools : Toolbox) (text : Text) : Prop :=
  ∃ formatter code s, run tools formatter code s = .ok text

end Formatter
end RecordGen
