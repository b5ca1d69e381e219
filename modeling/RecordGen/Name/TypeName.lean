import RecordGen.Name.Pascal
import RecordGen.Name.Uri

/-!
# Type names

The name of the record class that a URI stands for: the last segment of its path, cut at the first
point, in Pascal case.
-/

namespace RecordGen

/-- Why a URI gives no type name. -/
inductive NameError where
  | malformed (uri : Text) (fault : Uri.Fault)
  /-- The path is empty, or its last segment has neither letters nor digits. -/
  | unusable (uri : Text)
deriving DecidableEq, Repr

namespace NameError

def uri : NameError → Text
  | malformed uri _ => uri
  | unusable uri => uri

def message : NameError → Text
  | malformed uri fault =>
    .ofString "malformed URI (" ++ fault.reason ++ .ofString "): " ++ uri.quoted
  | unusable uri => .ofString "invalid schema name: " ++ uri.quoted

end NameError

namespace TypeName

/-- The part of a path that a name is made of: the last segment up to its first point. -/
def stem (path : Text) : Text :=
  (path.afterLast (CodePoint.ofChar '/')).before (CodePoint.ofChar '.')

/-- The type name of a URI. It is never empty. -/
def ofUri (uri : Text) : Except NameError Text :=
  match Uri.path uri with
  | .error fault => .error (.malformed uri fault)
  | .ok path =>
    match Pascal.ofText (stem path) with
    | [] => .error (.unusable uri)
    | name => .ok name

end TypeName
end RecordGen
