import RecordGen.Files.Disk
import Mathlib.Data.List.Basic

/-!
# Steps on a disk

The outcome of a step, from the outcomes of its parts, and invariants of steps. A step keeps an
invariant when the disk behind it has it, however the step ends; what the operations of a step keep,
the step keeps. What a step ensures, it may do only if it succeeds.
-/

namespace RecordGen

namespace Disk

/-- All the trees that the disk has been, the present one first. -/
def points (disk : Disk) : List FileTree := disk.tree :: disk.history.map Prod.fst

/-- The disk behind an operation that gives a tree. -/
def push (disk : Disk) (operation : FileOperation) (tree : FileTree) : Disk :=
  { tree, history := (disk.tree, operation) :: disk.history }

theorem points_push (disk : Disk) (operation : FileOperation) (tree : FileTree) :
    (disk.push operation tree).points = tree :: disk.points := rfl

theorem tree_mem_points (disk : Disk) : disk.tree ∈ disk.points := List.mem_cons_self

end Disk

namespace DiskStep

variable {α β : Type} {disk : Disk} {base : Text} {operation : FileOperation} {tree : FileTree}

/-! ## Outcomes -/

theorem outcome_throw (failure : Failure) :
    outcome (throw failure : DiskStep α) disk = (.error failure, disk) := rfl

theorem outcome_look (question : FileTree → α) :
    (look question).outcome disk = (.ok (question disk.tree), disk) := rfl

theorem outcome_ofAttempt (attempt : Attempt α) :
    (ofAttempt attempt).outcome disk = (attempt, disk) := rfl

theorem outcome_bind (step : DiskStep α) (next : α → DiskStep β) :
    (step >>= next).outcome disk =
      match step.outcome disk with
      | (.ok value, behind) => (next value).outcome behind
      | (.error failure, behind) => (.error failure, behind) := by
  unfold outcome ExceptT.run StateT.run
  simp only [bind, ExceptT.bind, ExceptT.mk, StateT.bind]
  cases step disk with
  | mk result behind =>
      cases result <;> rfl

theorem outcome_tryCatch (step : DiskStep α) (handler : Failure → DiskStep α) :
    outcome (tryCatch step handler) disk =
      match step.outcome disk with
      | (.ok value, behind) => (.ok value, behind)
      | (.error failure, behind) => (handler failure).outcome behind := by
  unfold outcome ExceptT.run StateT.run
  simp only [tryCatch, tryCatchThe, MonadExceptOf.tryCatch, ExceptT.tryCatch, ExceptT.mk, bind,
    StateT.bind]
  cases step disk with
  | mk result behind =>
      cases result <;> rfl

theorem outcome_operate :
    (operate base operation).outcome disk =
      match operation.apply disk.tree with
      | .ok tree => (.ok (), disk.push operation tree)
      | .error fault =>
        (.error (.system fault (FileTree.shownPath base operation.path)), disk) := by
  unfold operate
  rw [outcome_bind]
  change (match operation.apply disk.tree with | .ok _ => _ | .error _ => _ : DiskStep Unit).outcome
    disk = _
  cases operation.apply disk.tree <;> rfl

/-- A step with an undoing succeeds as the step does, and fails as it does behind the undoing. -/
theorem outcome_undoing (step : DiskStep α) (undo : DiskStep Unit) :
    (undoing step undo).outcome disk =
      match step.outcome disk with
      | (.ok value, behind) => (.ok value, behind)
      | (.error failure, behind) => (.error failure, (undo.outcome behind).2) := by
  unfold undoing
  rw [outcome_tryCatch]
  rcases step.outcome disk with ⟨failure | value, behind⟩
  · simp only [outcome_bind, outcome_tryCatch]
    rcases undo.outcome behind with ⟨_ | _, _⟩ <;> rfl
  · rfl

/-! ## Invariants -/

/-- However the step ends, the disk behind it has what the disk before it has. -/
def Keeps (invariant : Disk → Prop) (step : DiskStep α) : Prop :=
  ∀ disk, invariant disk → invariant (step.outcome disk).2

variable {invariant post : Disk → Prop}

theorem keeps_pure (value : α) : Keeps invariant (pure value : DiskStep α) :=
  fun _ holds => holds

theorem keeps_throw (failure : Failure) : Keeps invariant (throw failure : DiskStep α) :=
  fun _ holds => holds

theorem keeps_look (question : FileTree → α) : Keeps invariant (look question) :=
  fun _ holds => holds

theorem keeps_bind
    {step : DiskStep α} {next : α → DiskStep β}
    (first : Keeps invariant step)
    (rest : ∀ value, Keeps invariant (next value)) :
    Keeps invariant (step >>= next) := by
  intro disk holds
  have behind := first disk holds
  rw [outcome_bind]
  cases outcome : step.outcome disk with
  | mk result between =>
      rw [outcome] at behind
      cases result with
      | error failure => exact behind
      | ok value => exact rest value between behind

theorem keeps_tryCatch
    {step : DiskStep α} {handler : Failure → DiskStep α}
    (first : Keeps invariant step)
    (handled : ∀ failure, Keeps invariant (handler failure)) :
    Keeps invariant (tryCatch step handler) := by
  intro disk holds
  have behind := first disk holds
  rw [outcome_tryCatch]
  cases outcome : step.outcome disk with
  | mk result between =>
      rw [outcome] at behind
      cases result with
      | error failure => exact handled failure between behind
      | ok value => exact behind

theorem keeps_operate
    (kept : ∀ disk tree, invariant disk → operation.apply disk.tree = .ok tree →
      invariant (disk.push operation tree)) :
    Keeps invariant (operate base operation) := by
  intro disk holds
  rw [outcome_operate]
  cases applied : operation.apply disk.tree with
  | ok tree =>
      exact kept disk tree holds applied
  | error fault =>
      exact holds

/-! ## Results -/

/-- If the step succeeds, the disk behind it is one of these. -/
def Ensures (post : Disk → Prop) (step : DiskStep α) : Prop :=
  ∀ disk value behind, step.outcome disk = (.ok value, behind) → post behind

theorem ensures_throw (failure : Failure) : Ensures post (throw failure : DiskStep α) := by
  intro disk value behind done
  cases done

theorem ensures_operate
    (made : ∀ (disk : Disk) tree, operation.apply disk.tree = .ok tree →
      post (disk.push operation tree)) :
    Ensures post (operate base operation) := by
  intro disk value behind done
  rw [outcome_operate] at done
  cases applied : operation.apply disk.tree with
  | error fault =>
      rw [applied] at done
      cases done
  | ok tree =>
      rw [applied] at done
      cases done
      exact made disk tree applied

theorem ensures_bind
    {step : DiskStep α} {next : α → DiskStep β}
    (last : ∀ value, Ensures post (next value)) :
    Ensures post (step >>= next) := by
  intro disk value behind done
  rw [outcome_bind] at done
  cases outcome : step.outcome disk with
  | mk result between =>
      rw [outcome] at done
      cases result with
      | error failure => cases done
      | ok first => exact last first between value behind done

theorem ensures_tryCatch
    {step : DiskStep α} {handler : Failure → DiskStep α}
    (first : Ensures post step)
    (handled : ∀ failure, Ensures post (handler failure)) :
    Ensures post (tryCatch step handler) := by
  intro disk value behind done
  rw [outcome_tryCatch] at done
  cases outcome : step.outcome disk with
  | mk result between =>
      rw [outcome] at done
      cases result with
      | error failure => exact handled failure between value behind done
      | ok own =>
          cases done
          exact first disk _ _ outcome

end DiskStep
end RecordGen
