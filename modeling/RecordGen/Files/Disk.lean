import RecordGen.Files.Operation

/-!
# Disks

Steps on a file tree that may fail midway: what was done before the failure stays done. A disk keeps
its history, so that the points between the operations can be talked about.
-/

namespace RecordGen

/-- A tree and how it came about. -/
structure Disk where
  tree : FileTree
  /-- Each earlier tree with the operation that was applied to it, the latest first. -/
  history : List (FileTree × FileOperation) := []
deriving DecidableEq, Repr

/-- The operations that were applied to a disk, the first one first. -/
def Disk.operations (disk : Disk) : List FileOperation := (disk.history.map (·.2)).reverse

abbrev DiskStep := ExceptT Failure (StateM Disk)

namespace DiskStep

def outcome {α : Type} (step : DiskStep α) (disk : Disk) : Attempt α × Disk := step.run.run disk

/-- What the current tree says. -/
def look {α : Type} (question : FileTree → α) : DiskStep α := do
  return question (← get).tree

/-- One operation of the system; a refusal is told with `base` in front of the path. -/
def operate (base : Text) (operation : FileOperation) : DiskStep Unit := do
  let disk ← get
  match operation.apply disk.tree with
  | .ok tree => set { tree, history := (disk.tree, operation) :: disk.history : Disk }
  | .error fault => throw (.system fault (FileTree.shownPath base operation.path))

/-- A pure step. -/
def ofAttempt {α : Type} (attempt : Attempt α) : DiskStep α := fun disk => (attempt, disk)

/-- Runs a step, and a second one if the first fails; the failure of the first is the outcome. -/
def undoing {α : Type} (step : DiskStep α) (undo : DiskStep Unit) : DiskStep α :=
  tryCatch step fun failure => do
    tryCatch undo fun _ => pure ()
    throw failure

end DiskStep
end RecordGen
