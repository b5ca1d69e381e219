import RecordGen.Failure
import RecordGen.Text.Encoding

/-!
# File trees

A tree of plain files and directories, and what the operating system does to it: each operation
gives the new tree or the fault for which it is refused.
-/

namespace RecordGen

/-- Names from the root of a tree to one of its entries. -/
abbrev FilePath := List Text

/-- What stands at a path. -/
inductive Entry where
  | file (content : Bytes)
  | directory
deriving DecidableEq, Repr

/-- A tree below a root directory. -/
structure FileTree where
  entries : List (FilePath × Entry)
deriving DecidableEq, Repr

namespace FileTree

/-- Nothing but the root. -/
def empty : FileTree := ⟨[]⟩

/-- The entry at a path without upward steps. The root is a directory. -/
def lookup (tree : FileTree) (path : FilePath) : Option Entry :=
  if path.isEmpty then some .directory else tree.entries.lookup path

/-- The tree without the entry at a path. -/
def erase (tree : FileTree) (path : FilePath) : FileTree :=
  ⟨tree.entries.filter fun entry => entry.1 ≠ path⟩

/-- The tree with an entry put at a path. -/
def put (tree : FileTree) (path : FilePath) (entry : Entry) : FileTree :=
  ⟨(path, entry) :: (tree.erase path).entries⟩

/-! ## Walking -/

/-- The step to the directory above. -/
def upward : Text := .ofString ".."

/-- Walks from an entry along some names; an upward step goes to the directory above. Every entry
that is left behind has to be a directory; the last one reached may be missing. -/
def walk (tree : FileTree) (place : FilePath) : List Text → Except SystemFault FilePath
  | [] => .ok place
  | name :: rest =>
    match tree.lookup place with
    | none => .error .notFound
    | some (.file _) => .error .notDirectory
    | some .directory =>
      if name = upward then tree.walk place.dropLast rest else tree.walk (place ++ [name]) rest

/-- The entry at the end of a path and where it is. -/
def find (tree : FileTree) (path : FilePath) : Except SystemFault (FilePath × Entry) := do
  let place ← tree.walk [] path
  match tree.lookup place with
  | some entry => .ok (place, entry)
  | none => .error .notFound

def hasEntry (tree : FileTree) (path : FilePath) : Bool := (tree.find path).toOption.isSome

def hasDirectory (tree : FileTree) (path : FilePath) : Bool :=
  match tree.find path with
  | .ok (_, .directory) => true
  | _ => false

def content (tree : FileTree) (path : FilePath) : Except SystemFault Bytes := do
  match ← tree.find path with
  | (_, .file content) => .ok content
  | (_, .directory) => .error .isDirectory

/-! ## Operations -/

/-- Creates a directory below one that exists. -/
def makeDirectory (path : FilePath) (tree : FileTree) : Except SystemFault FileTree := do
  let place ← tree.walk [] path
  match tree.lookup place with
  | some _ => .error .exists
  | none => .ok (tree.put place .directory)

/-- Writes a file, new or not, in a directory that exists. -/
def writeFile (path : FilePath) (content : Bytes) (tree : FileTree) :
    Except SystemFault FileTree := do
  let place ← tree.walk [] path
  match tree.lookup place with
  | some .directory => .error .isDirectory
  | _ => .ok (tree.put place (.file content))

def removeFile (path : FilePath) (tree : FileTree) : Except SystemFault FileTree := do
  match ← tree.find path with
  | (place, .file _) => .ok (tree.erase place)
  | (_, .directory) => .error .isDirectory

/-- Moves a file to where another file may stand, which it replaces. -/
def moveFile (source target : FilePath) (tree : FileTree) : Except SystemFault FileTree := do
  match ← tree.find source with
  | (_, .directory) => .error .isDirectory
  | (origin, .file content) =>
    let place ← tree.walk [] target
    match tree.lookup place with
    | some .directory => .error .isDirectory
    | _ => .ok ((tree.erase origin).put place (.file content))

/-! ## Listing -/

/-- The names of a path with slashes between them. -/
def pathText (path : FilePath) : Text := Text.join [CodePoint.ofChar '/'] path

/-- A path as told to the user: with the place of the root in front of it. -/
def shownPath (base : Text) (path : FilePath) : Text :=
  if path.isEmpty then base else base ++ CodePoint.ofChar '/' :: pathText path

/-- The names that a path spells; empty names and single points are dropped. -/
def pathOf (t : Text) : FilePath :=
  (t.pieces (CodePoint.ofChar '/')).filter fun name => name ≠ [] ∧ name ≠ Text.ofString "."

/-- All entries, ascending by the text of their paths. -/
def listing (tree : FileTree) : List (Text × Entry) :=
  (tree.entries.map fun entry => (pathText entry.1, entry.2)).mergeSort
    fun a b => a.1.le b.1

end FileTree
end RecordGen
