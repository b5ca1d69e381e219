import RecordGen.Command.Run

/-!
# The command line

The program proper: it takes a picture of the files that a request names, runs the command on that
picture, does on the real files what was done on it, and prints the report.
-/

namespace RecordGen.Main

/-- The characters of a text; a lone surrogate has none. -/
def characters (t : Text) : String :=
  String.ofList ((t.filter fun c => !c.isSurrogate).map fun c => Char.ofNat c.val)

/-- A path of the system, from its root. -/
def systemPath (path : FilePath) : String := characters (FileTree.shownPath [] path)

/-- What stands at a path whose parent is a directory, as far as it can be read. -/
def entryAt (path : FilePath) : IO (Option Entry) := do
  try
    let content ← IO.FS.readBinFile (systemPath path)
    return some (.file content.toList)
  catch
    | .inappropriateType .. => return some .directory
    | _ => return none

/-- Adds a path to a picture, and the directories above it. -/
def addPath (tree : FileTree) (above : FilePath) : List Text → IO FileTree
  | [] => return tree
  | name :: rest => do
    let path := above ++ [name]
    match ← entryAt path with
    | none => return tree
    | some (.file content) => return tree.put path (.file content)
    | some .directory => addPath (tree.put path .directory) path rest

def namedPaths (w : Command.Workplace) (request : Command.Request) : List FilePath :=
  (request.config.toList ++ [request.path] ++ request.output.toList).filterMap w.locate

/-- Adds the temporary files of earlier runs that stand where this one would put its own. -/
def addTemporary (path : FilePath) : (tries : Nat) → FileTree → IO FileTree
  | 0, tree => return tree
  | tries + 1, tree => do
    let temporary := Write.temporaryPath tree path
    let seen ← addPath tree [] temporary
    if seen.hasEntry temporary then addTemporary path tries seen else return tree

/-- A picture of the files that some words name. -/
def picture (w : Command.Workplace) (arguments : List Text) : IO FileTree := do
  match Command.Request.ofWords? arguments with
  | none => return .empty
  | some request =>
    let mut tree := FileTree.empty
    for path in namedPaths w request do
      tree ← addPath tree [] path
    match request.output.bind w.locate with
    | none => return tree
    | some path => addTemporary path 100 tree

/-- Does an operation on the real files. -/
def perform : FileOperation → IO Unit
  | .makeDirectory path => IO.FS.createDir (systemPath path)
  | .writeFile path content => IO.FS.writeBinFile (systemPath path) ⟨content.toArray⟩
  | .removeFile path => IO.FS.removeFile (systemPath path)
  | .moveFile source target => IO.FS.rename (systemPath source) (systemPath target)

/-- Prints a report; the result is the exit status. -/
def print (report : Command.Report) : IO UInt32 := do
  match report.streams with
  | none => IO.eprintln "Usage: json_schema_to_struct [OPTIONS] PATH [OUTPUT]"
  | some (output, errors) =>
    IO.print (characters output)
    IO.eprint (characters errors)
  match report.escaped with
  | none => pure ()
  | some failure => IO.eprintln (characters failure.message)
  return UInt32.ofNat report.exit

/-- Runs the command with the given words. -/
def run (words : List String) : IO UInt32 := do
  let arguments := words.map Text.ofString
  let place : Command.Workplace :=
    ⟨[], FileTree.pathOf (Text.ofString (toString (← IO.currentDir)))⟩
  let tree ← picture place arguments
  let (report, disk) := Command.run place .full arguments { tree }
  disk.operations.forM perform
  print report

end RecordGen.Main

def main (words : List String) : IO UInt32 := RecordGen.Main.run words
