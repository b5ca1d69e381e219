import RecordGen.Source.Scan

/-!
# Interpolated literals

A literal with expressions between braces, as `f"a {b!r:>{c}} d"`: the texts of its expressions, and
whether all that surrounds them is well formed.
-/

namespace RecordGen.Source

def openBrace : CodePoint := CodePoint.ofChar '\x7b'

def closeBrace : CodePoint := CodePoint.ofChar '\x7d'

/-- The plain text in front of the next expression, and what follows it. Doubled braces are plain
unless the text is itself inside of braces; the name of a character is plain with its braces. -/
def plainPart? (raw inside : Bool) : (fuel : Nat) → Text → Option (Text × Text)
  | 0, _ => none
  | _, [] => some ([], [])
  | fuel + 1, c :: rest =>
    let further (taken after : Text) :=
      (plainPart? raw inside fuel after).map fun (plain, after) => (taken ++ plain, after)
    match rest with
    | d :: others =>
      if !raw && c = backslash && d = CodePoint.ofChar 'N' then
        if others.head? = some openBrace then
          let name := (others.drop 1).takeWhile (· ≠ closeBrace)
          let taken := 2 + name.length
          further (c :: d :: others.take taken) (others.drop taken)
        else further [c, d] others
      else if !raw && c = backslash && d ≠ openBrace && d ≠ closeBrace then further [c, d] others
      else if c = openBrace || c = closeBrace then
        if !inside && d = c then further [c] others
        else if c = closeBrace && !inside then none
        else some ([], c :: rest)
      else further [c] rest
    | [] =>
      if c = closeBrace && !inside then none
      else if c = openBrace || c = closeBrace then some ([], [c])
      else some ([c], [])

/-- What an expression inside of a literal is read in: the brackets that are still to be closed, and
the quote of the string that is open. -/
structure FieldState where
  pending : List CodePoint := []
  quote : Text := []

/-- The closing bracket of an opening one. -/
def closingPoint? (c : CodePoint) : Option CodePoint :=
  if c = CodePoint.ofChar '(' then some (CodePoint.ofChar ')')
  else if c = CodePoint.ofChar '[' then some (CodePoint.ofChar ']')
  else if c = openBrace then some closeBrace
  else none

def isClosingPoint (c : CodePoint) : Bool := isClosing [c]

/-- A comparison of two code points starts a text: it does not end an expression. -/
def startsComparison : Text → Bool
  | c :: d :: _ =>
    d = CodePoint.ofChar '=' &&
      (c = CodePoint.ofChar '!' || c = CodePoint.ofChar '=' || c = CodePoint.ofChar '<' ||
        c = CodePoint.ofChar '>')
  | _ => false

/-- The text of the expression at the start of a text, and what follows it: a closing brace, an equals
sign, a conversion or a layout. Backslashes and comments are refused. -/
def fieldText? (s : FieldState) : (fuel : Nat) → Text → Option (Text × Text)
  | 0, _ => none
  | _, [] => none
  | fuel + 1, c :: rest =>
    let further (s : FieldState) (count : Nat) :=
      (fieldText? s fuel ((c :: rest).drop count)).map fun (text, after) =>
        ((c :: rest).take count ++ text, after)
    if c = backslash then none
    else if !s.quote.isEmpty then
      if s.quote.isPrefixOf (c :: rest) then further { s with quote := [] } s.quote.length
      else further s 1
    else if isQuoteMark c then
      let quote := if rest.take 2 = [c, c] then [c, c, c] else [c]
      further { s with quote } quote.length
    else if c = commentMark then none
    else if s.pending.isEmpty && startsComparison (c :: rest) then further s 2
    else if s.pending.isEmpty &&
        (Text.ofString "!:\x7d=").contains c then some ([], c :: rest)
    else
      match closingPoint? c with
      | some close => further { s with pending := close :: s.pending } 1
      | none =>
        if isClosingPoint c then
          match s.pending with
          | close :: outer => if close = c then further { s with pending := outer } 1 else none
          | [] => none
        else further s 1

/-- Behind the equals sign of an expression that is shown with its value. -/
def afterEquals : Text → Text
  | c :: rest =>
    if c = CodePoint.ofChar '=' then
      rest.dropWhile fun c => isGap c || c = CodePoint.lineFeed || c = CodePoint.ofNat 0x0B
    else c :: rest
  | [] => []

/-- Behind the conversion of an expression: `!s`, `!r`, `!a` or nothing. -/
def afterConversion? : Text → Option Text
  | c :: rest =>
    if c = CodePoint.ofChar '!' then
      match rest with
      | d :: others => if (Text.ofString "sra").contains d then some others else none
      | [] => none
    else some (c :: rest)
  | [] => some []

/-- The expressions of a literal, and what follows a nested layout. Braces may stand in the layout of
an expression, but not in the layout of one of those. -/
def fieldsFrom? (raw : Bool) : (fuel : Nat) → (depth : Nat) → Text →
    Option (List Text × Text)
  | 0, _, _ => none
  | fuel + 1, depth, t => do
    let (plain, after) ← plainPart? raw (depth ≠ 0) (t.length + 1) t
    if !raw && !escapesFit false (plain.length + 1) plain then none
    else
      match after with
      | [] => if depth = 0 then return ([], []) else none
      | c :: rest =>
        if c = closeBrace then return ([], c :: rest)
        else if depth ≥ 2 then none
        else
          let (field, after) ← fieldText? {} (rest.length + 1) rest
          if field.all fun c => isGap c || c = CodePoint.lineFeed then none
          else
            let after ← afterConversion? (afterEquals after)
            let (inner, after) ←
              match after with
              | d :: layout =>
                if d = CodePoint.ofChar ':' then fieldsFrom? raw fuel (depth + 1) layout
                else some ([], d :: layout)
              | [] => none
            if after.head? = some closeBrace then
              let (others, after) ← fieldsFrom? raw fuel depth (after.drop 1)
              return (field :: inner ++ others, after)
            else none

/-- The expressions of an interpolated literal, inner ones included. -/
def Literal.fields? (l : Literal) : Option (List Text) :=
  match fieldsFrom? l.isRaw (l.body.length + 1) 0 l.body with
  | some (fields, []) => some fields
  | _ => none

end RecordGen.Source
