import RecordGen.Source.Literal

/-!
# Spelling

The canonical spelling of numbers and string literals: digits of hexadecimal numbers in capitals,
other letters of numbers small, a digit on both sides of a decimal point, double quotes where they
take no more backslashes than single ones.
-/

namespace RecordGen.Source

/-! ## Numbers -/

/-- A number with a digit on both sides of its decimal point, if it has one. -/
def pointSpelling (t : Text) : Text :=
  let orZero (digits : Text) : Text := if digits.isEmpty then Text.ofString "0" else digits
  match t.cut (CodePoint.ofChar '.') with
  | (_, none) => t
  | (whole, some fraction) => orZero whole ++ CodePoint.ofChar '.' :: orZero fraction

/-- A number in powers of ten, without a plus sign. -/
def exponentSpelling (t : Text) : Text :=
  match t.cut (CodePoint.ofChar 'e') with
  | (_, none) => t
  | (number, some power) =>
    let power := if power.head? = some (CodePoint.ofChar '+') then power.drop 1 else power
    pointSpelling number ++ CodePoint.ofChar 'e' :: power

def numberSpelling (t : Text) : Text :=
  let t := t.map CodePoint.asciiLower
  if (Text.ofString "0b").isPrefixOf t then t
  else if (Text.ofString "0x").isPrefixOf t then t.take 2 ++ (t.drop 2).map CodePoint.asciiUpper
  else if t.contains (CodePoint.ofChar 'e') then exponentSpelling t
  else if t.getLast? = some (CodePoint.ofChar 'j') then
    pointSpelling t.dropLast ++ [CodePoint.ofChar 'j']
  else pointSpelling t

/-! ## Runs of backslashes -/

/-- What follows the mark behind a run of backslashes at the start of a text, and how many there are;
`none` if something else follows the run. -/
def backslashesBefore? (mark : Text) (t : Text) : Option (Nat × Text) :=
  let count := (t.takeWhile (· = backslash)).length
  let rest := t.drop count
  if mark.isPrefixOf rest then some (count, rest.drop mark.length) else none

/-- One pass over a text that changes the backslashes before a mark. `change` gives the new number of
backslashes for an old one, or nothing where the mark stays as it is. A pass does not look at a mark
whose first code point in front was part of the mark before. -/
def rewriteMarks (mark : Text) (change : Nat → Option Nat) :
    (fuel : Nat) → (atStart : Bool) → Text → Text
  | 0, _, t => t
  | _, _, [] => []
  | fuel + 1, atStart, c :: rest =>
    let meet (t : Text) : Option (Nat × Text) :=
      (backslashesBefore? mark t).bind fun (count, after) =>
        (change count).map fun changed => (changed, after)
    let written (count : Nat) (after : Text) : Text :=
      List.replicate count backslash ++ mark ++ rewriteMarks mark change fuel false after
    match if c = backslash then none else meet rest with
    | some (count, after) => c :: written count after
    | none =>
      match if atStart then meet (c :: rest) else none with
      | some (count, after) => written count after
      | none => c :: rewriteMarks mark change fuel false rest

/-- Two passes, so that marks next to each other are met. -/
def rewriteMarksTwice (mark : Text) (change : Nat → Option Nat) (t : Text) : Text :=
  let once (t : Text) : Text := rewriteMarks mark change (t.length + 1) true t
  once (once t)

/-- Takes the backslash away that escapes a mark. -/
def unescapeMark (mark t : Text) : Text :=
  rewriteMarksTwice mark (fun count => if count % 2 = 1 then some (count - 1) else none) t

def escapeMark (mark t : Text) : Text :=
  rewriteMarksTwice mark (fun count => if count % 2 = 0 then some (count + 1) else none) t

/-- The mark occurs without being escaped. -/
def hasBareMark (mark : Text) : (fuel : Nat) → (atStart : Bool) → Text → Bool
  | 0, _, _ => false
  | _, _, [] => false
  | fuel + 1, atStart, c :: rest =>
    let meets (t : Text) : Bool := (backslashesBefore? mark t).any fun (count, _) => count % 2 = 0
    (c ≠ backslash && meets rest) || (atStart && meets (c :: rest)) ||
      hasBareMark mark fuel false rest

/-! ## Quotes -/

/-- The rest of an expression between single braces, up to the brace that closes it. -/
def bracedRest : Text → Option Text
  | [] => none
  | c :: rest =>
    if c = CodePoint.ofChar '\x7d' && rest.head? ≠ some (CodePoint.ofChar '\x7d') then some []
    else if c = CodePoint.lineFeed then none
    else (bracedRest rest).map (c :: ·)

/-- The expressions between single braces in a text, given whether a brace stands in front. -/
def bracedParts : (fuel : Nat) → (afterBrace : Bool) → Text → List Text
  | 0, _, _ => []
  | _, _, [] => []
  | fuel + 1, afterBrace, c :: rest =>
    let opens := c = CodePoint.ofChar '\x7b'
    let part :=
      match rest with
      | d :: others =>
        if opens && !afterBrace && d ≠ CodePoint.ofChar '\x7b' then
          (bracedRest others).map (d :: ·)
        else none
      | [] => none
    match part with
    | some part => part :: bracedParts fuel false (rest.drop (part.length + 1))
    | none => bracedParts fuel opens rest

/-- How many backslashes a text has. -/
def backslashCount (t : Text) : Nat := (t.filter (· = backslash)).length

namespace Literal

/-- The quote that a literal has and the one that it could have instead. Three double quote marks stay
as they are. -/
def quotes? (l : Literal) : Option (Text × Text) :=
  let double := doubleQuote
  let single := singleQuote
  if l.quote = [double, double, double] then none
  else if l.quote = [single, single, single] then some (l.quote, [double, double, double])
  else if l.quote = [double] then some ([double], [single])
  else some ([single], [double])

/-- The literal with the other quote, if that is better: it takes fewer backslashes, or as many and
has double quote marks. Quote marks that need no backslash lose it in any case. -/
def requoted (l : Literal) (quote other : Text) : Literal :=
  let bare := if l.isRaw then l.body else unescapeMark other l.body
  let kept : Literal := { l with body := bare }
  let turned := if l.isRaw then bare else escapeMark other (unescapeMark quote bare)
  let turned :=
    if other.length = 3 && turned.getLast? = some doubleQuote then
      turned.dropLast ++ [backslash, doubleQuote]
    else turned
  if l.isRaw && hasBareMark other (bare.length + 1) true bare then l
  else if l.isInterpolated &&
      (bracedParts (turned.length + 1) false turned).any (·.contains backslash) then kept
  else if backslashCount turned > backslashCount bare then kept
  else if backslashCount turned = backslashCount bare && quote = [doubleQuote] then kept
  else { l with quote := other, body := turned }

def withPreferredQuote (l : Literal) : Literal :=
  match l.quotes? with
  | some (quote, other) => l.requoted quote other
  | none => l

/-- The letters before the quote in their canonical spelling: none for plain text, small ones for
octets and interpolation, those for raw text first. -/
def preferredMark (mark : Text) : Text :=
  let isAny (c : CodePoint) (s : String) : Bool := (Text.ofString s).contains c
  let mark := (mark.filter fun c => !isAny c "uU").map fun c =>
    if isAny c "fFbB" then c.asciiLower else c
  match mark with
  | [a, b] => if isAny a "rR" then [a, b] else [b, a]
  | mark => mark

/-- The literal with its preferred mark and quote. -/
def preferred (l : Literal) : Literal :=
  { l with mark := preferredMark l.mark }.withPreferredQuote

end Literal

/-! ## Escapes -/

/-- The length of the escape of a code point that a letter starts, and whether its digits are
hexadecimal. -/
def escapeLength? (octets : Bool) (letter : CodePoint) (after : Text) : Option (Nat × Bool) :=
  let digits (count : Nat) : Option (Nat × Bool) :=
    if after.length ≥ count && (after.take count).all (·.hexValue?.isSome) then some (count, true)
    else none
  if letter = CodePoint.ofChar 'x' then digits 2
  else if octets then none
  else if letter = CodePoint.ofChar 'u' then digits 4
  else if letter = CodePoint.ofChar 'U' then digits 8
  else if letter = CodePoint.ofChar 'N' && after.head? = some (CodePoint.ofChar '\x7b') then
    let name := (after.drop 1).takeWhile (· ≠ CodePoint.ofChar '\x7d')
    if name.isEmpty || name.length + 1 = after.length then none
    else some (name.length + 2, false)
  else none

/-- A text with the hexadecimal digits of its escapes in small letters and the names of code points in
capitals. -/
def escapeSpelling (octets : Bool) : (fuel : Nat) → Text → Text
  | 0, t => t
  | _, [] => []
  | fuel + 1, c :: rest =>
    if c = backslash then
      match rest with
      | [] => [c]
      | letter :: after =>
        match escapeLength? octets letter after with
        | some (count, isHex) =>
          let change := if isHex then CodePoint.asciiLower else CodePoint.asciiUpper
          c :: letter :: (after.take count).map change ++
            escapeSpelling octets fuel (after.drop count)
        | none => c :: letter :: escapeSpelling octets fuel after
    else c :: escapeSpelling octets fuel rest

/-- The literal with its escapes in their canonical spelling. -/
def Literal.withPreferredEscapes (l : Literal) : Literal :=
  if l.isRaw then l
  else { l with body := escapeSpelling l.isOctets (l.body.length + 1) l.body }

end RecordGen.Source
