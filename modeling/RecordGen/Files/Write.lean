import RecordGen.Files.Disk
import RecordGen.Source.Parse

/-!
# Writing files

Two ways to write a text to a file. `atomically` fills a temporary file next to the target, checks
the text and only then moves the file into place, so the target holds its old content or the new
one, whole, at every moment. `directly` writes into the target itself.
-/

namespace RecordGen

/-- A check that a text has to pass before it is written. -/
abbrev TextCheck := Text → Attempt Unit

/-- The check that a text is code. -/
def checkOutput : TextCheck := fun t =>
  match Source.check t with
  | .ok _ => .ok ()
  | .error .unencodable => .error .unencodable
  | .error .nullCharacter => .error .nullCharacter
  | .error .invalidSyntax => Attempt.refuse (.output .invalidSyntax)

namespace Write

open DiskStep

/-! ## Directories -/

/-- Creates a directory, given by its names from the last to the first, and the directories above it
that are missing. That it exists is no fault. -/
def ensureDirectoryUpward (base : Text) : List Text → DiskStep Unit
  | [] => pure ()
  | name :: above =>
    let path := (name :: above).reverse
    let make := operate base (.makeDirectory path)
    let settle (failure : Failure) : DiskStep Unit := do
      if ← look (·.hasDirectory path) then pure () else throw failure
    tryCatch make fun failure =>
      match failure with
      | .system .notFound _ => do
        ensureDirectoryUpward base above
        tryCatch make fun failure =>
          match failure with
          | .system .notFound _ => throw failure
          | _ => settle failure
      | _ => settle failure

/-- Creates a directory and those above it unless they exist. -/
def ensureDirectory (base : Text) (path : FilePath) : DiskStep Unit :=
  ensureDirectoryUpward base path.reverse

/-- Creates a directory that does not exist, and those above it that are missing. -/
def newDirectory (base : Text) (path : FilePath) : DiskStep Unit :=
  let make := operate base (.makeDirectory path)
  tryCatch make fun failure =>
    match failure with
    | .system .notFound _ => do
      ensureDirectory base path.dropLast
      make
    | _ => throw failure

/-! ## Files -/

/-- The name of a temporary file for a target and a number. -/
def temporaryName (name : Text) (n : Nat) : Text :=
  Text.ofString "." ++ name ++ Text.ofString "." ++ Text.ofNat n ++ Text.ofString ".tmp"

/-- The path of a temporary file next to a target, at which nothing stands. -/
def temporaryPath (tree : FileTree) (path : FilePath) : FilePath :=
  let candidate (n : Nat) : FilePath := path.dropLast ++ [temporaryName (path.getLast?.getD []) n]
  let count := tree.entries.length + 1
  candidate (((List.range count).find? fun n => !tree.hasEntry (candidate n)).getD count)

def fill (base : Text) (path : FilePath) (content : Text) : DiskStep Unit := do
  match Utf8.encode? content with
  | some bytes => operate base (.writeFile path bytes)
  | none => throw .unencodable

/-- Writes a text to a file in one step that can be seen. The check, if there is one, is made while
the text stands in the temporary file only; if anything fails, that file is removed. -/
def atomically (base : Text) (path : FilePath) (content : Text) (check : Option TextCheck) :
    DiskStep Unit := do
  ensureDirectory base path.dropLast
  let temporary ← look (temporaryPath · path)
  operate base (.writeFile temporary [])
  undoing
    (do
      fill base temporary content
      match check with
      | some check => ofAttempt (check content)
      | none => pure ()
      operate base (.moveFile temporary path))
    (operate base (.removeFile temporary))

/-- Refuses a path at which something stands. -/
def requireFree (base : Text) (path : FilePath) : DiskStep Unit := do
  if ← look (·.hasEntry path) then throw (.outputExists (FileTree.shownPath base path))

/-- Writes a text to a file that must not exist. -/
def atomicallyIfFree (base : Text) (path : FilePath) (content : Text)
    (check : Option TextCheck) : DiskStep Unit := do
  requireFree base path
  atomically base path content check

/-- Writes a text into a file itself: the file is emptied first. -/
def directly (base : Text) (path : FilePath) (content : Text) (check : Option TextCheck) :
    DiskStep Unit := do
  match check with
  | some check => ofAttempt (check content)
  | none => pure ()
  ensureDirectory base path.dropLast
  operate base (.writeFile path [])
  fill base path content

end Write
end RecordGen
