import RecordGen.Command.Arguments
import RecordGen.Files.Tree

/-!
# Paths of a request

Where the paths of a request lead from the working directory, and the checks that they have to pass
before anything is read.
-/

namespace RecordGen.Command

/-- Where a run takes place: the name of the root of its tree, and the working directory in it. -/
structure Workplace where
  root : Text
  directory : FilePath
deriving DecidableEq, Repr

/-- Walks along names by their spelling alone. The root of a file system is its own parent; `none` is
above any other root. -/
def normalize (ofSystem : Bool) (place : FilePath) : List Text → Option FilePath
  | [] => some place
  | name :: rest =>
    if name = FileTree.upward then
      if place.isEmpty && !ofSystem then none else normalize ofSystem place.dropLast rest
    else normalize ofSystem (place ++ [name]) rest

/-- The path that an argument means. The tree of a workplace whose root has no name is a file
system. -/
def Workplace.locate (w : Workplace) (argument : Text) : Option FilePath :=
  if argument.head? = some (CodePoint.ofChar '/') then
    if w.root.isEmpty then normalize true [] (FileTree.pathOf argument) else none
  else normalize w.root.isEmpty w.directory (FileTree.pathOf argument)

/-- The paths of a request, which have passed the checks of the command line. -/
structure Located where
  request : Request
  config : Option FilePath
  path : FilePath
  output : Option FilePath
deriving DecidableEq, Repr

def existing? (w : Workplace) (tree : FileTree) (argument : Text) : Option FilePath := do
  let path ← w.locate argument
  if tree.hasEntry path then some path else none

/-- Checks the paths of a request: the settings have to exist, the schema has to be a file, and the
output must not be a directory. -/
def locate? (w : Workplace) (tree : FileTree) (request : Request) : Option Located := do
  let config ←
    match request.config with
    | none => some none
    | some argument => (existing? w tree argument).map some
  let path ← existing? w tree request.path
  if tree.hasDirectory path then none
  let output ←
    match request.output with
    | none => some none
    | some argument => do
      let path ← w.locate argument
      if tree.hasDirectory path then none else some (some path)
  some ⟨request, config, path, output⟩

end RecordGen.Command
