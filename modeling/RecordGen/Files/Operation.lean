import RecordGen.Files.Tree

/-!
# File operations

The operations of the system on a file tree as data, so that what was done to a tree can be kept
and done again elsewhere.
-/

namespace RecordGen

inductive FileOperation where
  | makeDirectory (path : FilePath)
  | writeFile (path : FilePath) (content : Bytes)
  | removeFile (path : FilePath)
  | moveFile (source target : FilePath)
deriving DecidableEq, Repr

namespace FileOperation

/-- The path that a refusal of the operation is told with. -/
def path : FileOperation → FilePath
  | makeDirectory path => path
  | writeFile path _ => path
  | removeFile path => path
  | moveFile _ target => target

/-- What the operation makes of a tree. -/
def apply : FileOperation → FileTree → Except SystemFault FileTree
  | makeDirectory path => FileTree.makeDirectory path
  | writeFile path content => FileTree.writeFile path content
  | removeFile path => FileTree.removeFile path
  | moveFile source target => FileTree.moveFile source target

end FileOperation
end RecordGen
