import RecordGen.Proofs.Files.Atomic

/-!
# Failures of writes

With which failures a step on a disk can end. What its parts fail with, a step fails with, but for the
failures that it handles; so a write fails for the system, for its check, or for a text that has no
encoding.
-/

namespace RecordGen

namespace DiskStep

variable {α β : Type} {allowed allowed' : Failure → Prop} {base : Text} {operation : FileOperation}

/-- If the step fails, then with one of these failures. -/
def FailsOnly (allowed : Failure → Prop) (step : DiskStep α) : Prop :=
  ∀ disk failure, (step.outcome disk).1 = .error failure → allowed failure

theorem failsOnly_pure (value : α) : FailsOnly allowed (pure value : DiskStep α) := by
  intro disk failure ended
  cases ended

theorem failsOnly_throw
    {failure : Failure}
    (allows : allowed failure) :
    FailsOnly allowed (throw failure : DiskStep α) := by
  intro disk other ended
  rw [outcome_throw] at ended
  cases ended
  exact allows

theorem failsOnly_look (question : FileTree → α) : FailsOnly allowed (look question) := by
  intro disk failure ended
  cases ended

theorem failsOnly_ofAttempt
    {attempt : Attempt α}
    (allows : ∀ failure, attempt = .error failure → allowed failure) :
    FailsOnly allowed (ofAttempt attempt) :=
  fun _ failure ended => allows failure ended

theorem failsOnly_operate
    (allows : ∀ fault path, allowed (.system fault path)) :
    FailsOnly allowed (operate base operation) := by
  intro disk failure ended
  rw [outcome_operate] at ended
  split at ended
  · cases ended
  · cases ended
    exact allows _ _

theorem failsOnly_bind
    {step : DiskStep α} {next : α → DiskStep β}
    (first : FailsOnly allowed step)
    (rest : ∀ value, FailsOnly allowed (next value)) :
    FailsOnly allowed (step >>= next) := by
  intro disk failure ended
  rw [outcome_bind] at ended
  cases outcome : step.outcome disk with
  | mk result behind =>
      rw [outcome] at ended
      cases result with
      | error own =>
          cases ended
          exact first disk failure (by rw [outcome])
      | ok value => exact rest value behind failure ended

theorem failsOnly_tryCatch
    {step : DiskStep α} {handler : Failure → DiskStep α}
    (first : FailsOnly allowed' step)
    (handled : ∀ failure, allowed' failure → FailsOnly allowed (handler failure)) :
    FailsOnly allowed (tryCatch step handler) := by
  intro disk failure ended
  rw [outcome_tryCatch] at ended
  cases outcome : step.outcome disk with
  | mk result behind =>
      rw [outcome] at ended
      cases result with
      | error own => exact handled own (first disk own (by rw [outcome])) behind failure ended
      | ok value => cases ended

/-- A step with an undoing fails as the step does. -/
theorem failsOnly_undoing
    {step : DiskStep α} {undo : DiskStep Unit}
    (first : FailsOnly allowed step) :
    FailsOnly allowed (undoing step undo) := by
  intro disk failure ended
  rw [outcome_undoing] at ended
  cases outcome : step.outcome disk with
  | mk result behind =>
      rw [outcome] at ended
      cases result with
      | error own =>
          cases ended
          exact first disk failure (by rw [outcome])
      | ok value => cases ended

end DiskStep

namespace Write

open DiskStep

variable {allowed : Failure → Prop} {base : Text} {path : FilePath} {content : Text}
  {check : Option TextCheck}

/-- Making directories fails for the system alone. -/
theorem failsOnly_ensureDirectory
    (system : ∀ fault path, allowed (.system fault path)) :
    FailsOnly allowed (ensureDirectory base path) := by
  have make (path : FilePath) : FailsOnly allowed (operate base (.makeDirectory path)) :=
    failsOnly_operate system
  have settle (path : FilePath) (failure : Failure) (allows : allowed failure) : FailsOnly allowed
      (do if ← look (·.hasDirectory path) then pure () else throw failure) := by
    refine failsOnly_bind (failsOnly_look _) fun present => ?_
    cases present with
    | true => exact failsOnly_pure ()
    | false => exact failsOnly_throw allows
  unfold ensureDirectory
  induction path.reverse with
  | nil =>
      exact failsOnly_pure ()
  | cons name above inductionHypothesis =>
      unfold ensureDirectoryUpward
      refine failsOnly_tryCatch (make _) fun failure allows => ?_
      split
      · refine failsOnly_bind inductionHypothesis fun _ =>
          failsOnly_tryCatch (make _) fun failure allows => ?_
        split
        · exact failsOnly_throw allows
        · exact settle _ failure allows
      · exact settle _ failure allows

/-- What a write of a text can fail with: the system, the encoding of the text, and the check. -/
structure Allows (allowed : Failure → Prop) (content : Text) (check : Option TextCheck) : Prop where
  system : ∀ fault path, allowed (.system fault path)
  encoding : content.hasSurrogate = true → allowed .unencodable
  refusal : ∀ failure, verdict check content = .error failure → allowed failure

theorem Allows.failsOnly_fill
    (allows : Allows allowed content check) :
    FailsOnly allowed (fill base path content) := by
  unfold fill
  cases encoded : Utf8.encode? content with
  | some bytes =>
      exact failsOnly_operate allows.system
  | none =>
      refine failsOnly_throw (allows.encoding ?_)
      unfold Utf8.encode? at encoded
      split at encoded
      · assumption
      · cases encoded

theorem Allows.failsOnly_atomically
    (allows : Allows allowed content check) :
    FailsOnly allowed (atomically base path content check) := by
  rw [atomically_eq]
  refine failsOnly_bind (failsOnly_ensureDirectory allows.system) fun _ => ?_
  refine failsOnly_bind (failsOnly_look _) fun temporary => ?_
  refine failsOnly_bind (failsOnly_operate allows.system) fun _ => failsOnly_undoing ?_
  refine failsOnly_bind allows.failsOnly_fill fun _ => ?_
  exact failsOnly_bind (failsOnly_ofAttempt allows.refusal) fun _ => failsOnly_operate allows.system

theorem directly_eq (base : Text) (path : FilePath) (content : Text) (check : Option TextCheck) :
    directly base path content check = (do
      ofAttempt (verdict check content)
      ensureDirectory base path.dropLast
      operate base (.writeFile path [])
      fill base path content) := by
  cases check <;> rfl

theorem Allows.failsOnly_directly
    (allows : Allows allowed content check) :
    FailsOnly allowed (directly base path content check) := by
  rw [directly_eq]
  refine failsOnly_bind (failsOnly_ofAttempt allows.refusal) fun _ => ?_
  refine failsOnly_bind (failsOnly_ensureDirectory allows.system) fun _ => ?_
  exact failsOnly_bind (failsOnly_operate allows.system) fun _ => allows.failsOnly_fill

theorem failsOnly_requireFree
    (allows : allowed (.outputExists (FileTree.shownPath base path))) :
    FailsOnly allowed (requireFree base path) := by
  refine failsOnly_bind (failsOnly_look _) fun present => ?_
  cases present with
  | true => exact failsOnly_throw allows
  | false => exact failsOnly_pure ()

end Write
end RecordGen
