import RecordGen.Formatter.Choice
import RecordGen.Proofs.Outcome

/-!
# The check of the formatters

Both formatters check that their input is code, before they do anything else with it. What they
format is code, and for what is none they report the fault that the check finds, if they are
installed.
-/

namespace RecordGen

namespace Source

variable {code : Text} {fault : Fault}

theorem check_eq_error_iff : check code = .error fault ↔ parse code = .error fault :=
  map_eq_error

theorem exists_parse_of_check
    (accepted : check code = .ok ()) :
    ∃ tree, parse code = .ok tree := by
  obtain ⟨tree, parsed, -⟩ := map_eq_ok.mp accepted
  exact ⟨tree, parsed⟩

/-- A text without surrogates and null characters can only be refused for its syntax. -/
theorem eq_invalidSyntax_of_parse
    (encodable : code.hasSurrogate = false)
    (noNull : (code.any fun c => c.val = 0) = false)
    (refused : parse code = .error fault) :
    fault = .invalidSyntax := by
  rw [parse, encodable, noNull] at refused
  simp only [Bool.false_eq_true, ↓reduceIte] at refused
  split at refused
  · cases refused
  · exact (Except.error.inj refused).symm

end Source

namespace Formatter

variable {tools : Toolbox} {formatter : FormatterName} {code text : Text} {s : FormatterSettings}

/-- The formatter is installed. -/
def IsReady (tools : Toolbox) : FormatterName → Prop
  | .black => tools.layoutInstalled = true
  | .ruff => (Tool.isAvailable tools.environment FormatterName.ruff.text {}).1 = .ok true

/-- Only code is formatted. -/
theorem exists_parse_of_run
    (ran : run tools formatter code s = .ok text) :
    ∃ tree, Source.parse code = .ok tree := by
  cases formatter with
  | black =>
      simp only [run, layOut] at ran
      split at ran
      · cases ran
      · split at ran
        · cases ran
        · rename_i accepted
          exact Source.exists_parse_of_check accepted
  | ruff =>
      simp only [run, Tool.format] at ran
      split at ran
      · cases ran
      · cases ran
      · split at ran
        · cases ran
        · rename_i accepted
          exact Source.exists_parse_of_check accepted

/-- What is no code is reported by a formatter that is installed. -/
theorem run_of_refused
    {fault : Source.Fault}
    (ready : IsReady tools formatter)
    (refused : Source.parse code = .error fault) :
    run tools formatter code s = .error (sourceFailure formatter fault) := by
  have checked := Source.check_eq_error_iff.mpr refused
  cases formatter with
  | black =>
      have installed : tools.layoutInstalled = true := ready
      simp only [run, layOut, installed, checked, Bool.not_true, Bool.false_eq_true, ↓reduceIte]
  | ruff =>
      have available : (Tool.isAvailable tools.environment FormatterName.ruff.text {}).1 = .ok true :=
        ready
      rw [run, Tool.format]
      split
      · rename_i known
        rw [known] at available
        cases available
      · rename_i known
        rw [known] at available
        cases available
      · rw [checked]

/-- What is no code is never formatted. -/
theorem exists_failure_of_refused
    {fault : Source.Fault}
    (refused : Source.parse code = .error fault) :
    ∃ failure, run tools formatter code s = .error failure := by
  cases outcome : run tools formatter code s with
  | error failure => exact ⟨failure, rfl⟩
  | ok text =>
      obtain ⟨tree, parsed⟩ := exists_parse_of_run outcome
      rw [refused] at parsed
      cases parsed

end Formatter
end RecordGen
