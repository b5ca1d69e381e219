import RecordGen.Text.Quoted
import RecordGen.Unicode.Compatibility

/-!
# Identifiers as URIs

The path of a URI: what is left once scheme, authority, query and fragment are cut off. The
authority is checked on the way: its brackets, the address between them, and characters that would
turn into delimiters under normalization.
-/

namespace RecordGen.Uri

/-- Why a text is no URI. -/
inductive Fault where
  | controlCharacter
  /-- Brackets in the authority do not enclose its host. -/
  | invalidBrackets
  | invalidFutureAddress
  | addressOfVersionFour
  | noAddress (host : Text)
  | delimiterForms (authority : Text)
deriving DecidableEq, Repr

def Fault.reason : Fault → Text
  | controlCharacter => .ofString "control character in URI"
  | invalidBrackets => .ofString "Invalid IPv6 URL"
  | invalidFutureAddress => .ofString "IPvFuture address is invalid"
  | addressOfVersionFour => .ofString "An IPv4 address cannot be in brackets"
  | noAddress host =>
    host.quoted ++ .ofString " does not appear to be an IPv4 or IPv6 address"
  | delimiterForms authority =>
    .ofString "netloc '" ++ authority ++
      .ofString "' contains invalid characters under NFKC normalization"

/-! ## Addresses -/

/-- One to three ASCII digits, no leading zero, at most 255. -/
def isOctet (t : Text) : Bool :=
  !t.isEmpty && t.all CodePoint.isAsciiDigit && t.length ≤ 3 &&
    !(t.length > 1 && t.head? = some (CodePoint.ofChar '0')) &&
    t.foldl (fun n c => n * 10 + (c.val - 0x30)) 0 ≤ 255

/-- Four octets with points between them. -/
def isVersionFour (t : Text) : Bool :=
  let octets := t.pieces (CodePoint.ofChar '.')
  octets.length = 4 && octets.all isOctet

/-- One to four hexadecimal digits. -/
def isGroup (t : Text) : Bool :=
  !t.isEmpty && t.all (fun c => c.hexValue?.isSome) && t.length ≤ 4

/-- The groups on one side of a gap, given the one at their outer end: an empty one there belongs to
the gap and has to be alone. -/
def besideGap? (outer : Option Text) (groups : List Text) : Option (List Text) :=
  if outer = some [] then (if groups.length = 1 then some [] else none) else some groups

/-- Groups between colons form an address of version six: eight groups, or fewer with one gap. An
empty group at an end belongs to a gap there. -/
def areGroups (groups : List Text) : Bool :=
  let inner := groups.drop 1 |>.dropLast
  match inner.count [] with
  | 0 => groups.length = 8 && groups.all isGroup
  | 1 =>
    let gap := 1 + inner.idxOf []
    let high := groups.take gap
    let low := groups.drop (gap + 1)
    match besideGap? high.head? high, besideGap? low.getLast? low with
    | some high, some low => high.length + low.length < 8 && high.all isGroup && low.all isGroup
    | _, _ => false
  | _ => false

/-- The groups of an address, its last part spelled as two groups if it is written as octets. -/
def groups? (t : Text) : Option (List Text) :=
  let groups := t.pieces (CodePoint.ofChar ':')
  if groups.length < 3 then none
  else
    match groups.getLast? with
    | none => none
    | some last =>
      if last.contains (CodePoint.ofChar '.') then
        if isVersionFour last then
          some (groups.dropLast ++ [Text.ofString "0", Text.ofString "0"])
        else none
      else some groups

/-- An address of version six, perhaps with a scope behind a percent sign. -/
def isVersionSix (t : Text) : Bool :=
  let (address, scope) := t.cut (CodePoint.ofChar '%')
  let scopeFits :=
    match scope with
    | none => true
    | some scope => !scope.isEmpty && !scope.contains (CodePoint.ofChar '%')
  scopeFits &&
    match groups? address with
    | none => false
    | some groups => groups.length ≤ 9 && areGroups groups

/-- An address of a later version: `v`, hexadecimal digits, a point and something more. -/
def isFutureAddress (t : Text) : Bool :=
  match t.cut (CodePoint.ofChar '.') with
  | (v :: digits, some rest) =>
    v = CodePoint.ofChar 'v' && !digits.isEmpty && digits.all (fun c => c.hexValue?.isSome) &&
      !rest.isEmpty
  | _ => false

/-! ## Authorities -/

/-- Checks the host of a bracketed authority. -/
def checkHost (host : Text) : Except Fault Unit :=
  if host.head? = some (CodePoint.ofChar 'v') then
    if isFutureAddress host then .ok () else .error .invalidFutureAddress
  else if isVersionFour host then .error .addressOfVersionFour
  else if isVersionSix host then .ok ()
  else .error (.noAddress host)

/-- Checks an authority that has brackets of both kinds. What precedes the last at sign is not
looked at. -/
def checkBracketed (authority : Text) : Except Fault Unit :=
  let host := authority.afterLast (CodePoint.ofChar '@')
  match host.cut (CodePoint.ofChar '[') with
  | ([], some bracketed) =>
    let (host, port) := bracketed.cut (CodePoint.ofChar ']')
    match port with
    | some (next :: _) =>
      if next = CodePoint.ofChar ':' then checkHost host else .error .invalidBrackets
    | _ => checkHost host
  | (_ :: _, some _) => .error .invalidBrackets
  | (_, none) => checkHost (host.before (CodePoint.ofChar ':'))

def checkBrackets (authority : Text) : Except Fault Unit :=
  let opening := authority.contains (CodePoint.ofChar '[')
  let closing := authority.contains (CodePoint.ofChar ']')
  if opening ∧ closing then checkBracketed authority
  else if opening ∨ closing then .error .invalidBrackets
  else .ok ()

/-- Checks that no character of an authority turns into a delimiter. -/
def checkForms (authority : Text) : Except Fault Unit :=
  if authority.any Unicode.isDelimiterForm then .error (.delimiterForms authority) else .ok ()

/-! ## The path -/

/-- May stand in the name of a scheme. -/
def isSchemePoint (c : CodePoint) : Bool :=
  c.isAsciiLetter || c.isAsciiDigit || c = CodePoint.ofChar '+' || c = CodePoint.ofChar '.' ||
    c = CodePoint.ofChar '-'

def dropScheme (t : Text) : Text :=
  match t.cut (CodePoint.ofChar ':') with
  | (first :: others, some rest) =>
    if first.isAsciiLetter && others.all isSchemePoint then rest else t
  | _ => t

/-- Ends an authority. -/
def isDelimiter (c : CodePoint) : Bool :=
  c = CodePoint.ofChar '/' || c = CodePoint.ofChar '?' || c = CodePoint.ofChar '#'

/-- The authority, if there is one, and what follows it. -/
def splitAuthority (t : Text) : Text × Text :=
  match t with
  | a :: b :: rest =>
    let slash := CodePoint.ofChar '/'
    if a = slash ∧ b = slash then rest.span fun c => !isDelimiter c else ([], t)
  | _ => ([], t)

/-- U+0000 to U+001F and U+007F. -/
def isControl (c : CodePoint) : Bool := c.val < 0x20 || c.val = 0x7F

/-- The path of a URI. Nothing in it is decoded. -/
def path (uri : Text) : Except Fault Text := do
  if uri.any isControl then throw .controlCharacter
  let (authority, rest) := splitAuthority (dropScheme (uri.dropWhile fun c => c.val ≤ 0x20))
  checkBrackets authority
  checkForms authority
  return (rest.before (CodePoint.ofChar '#')).before (CodePoint.ofChar '?')

end RecordGen.Uri
