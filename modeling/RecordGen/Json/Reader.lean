import RecordGen.Json.Token

/-!
# Reading a document

The grammar level: a machine with a stack of open arrays and objects takes the tokens one by one
and stops at the first that does not fit. `read` is the whole reader of a text.
-/

namespace RecordGen.Json

/-- Why a text yields no value. -/
inductive ReadFailure where
  | syntaxError (error : SyntaxError)
  /-- An integer has more digits than are converted. -/
  | tooManyDigits (count : Nat)
  /-- Arrays and objects are nested too deeply. -/
  | tooDeep
deriving DecidableEq, Repr

/-! ## Numbers -/

/-- The number that decimal digits spell. -/
def digitsValue (digits : Text) : Nat :=
  digits.foldl (fun n c => n * 10 + (c.val - 0x30)) 0

/-- The power of ten that an exponent stands for. -/
def Exponent.value (e : Exponent) : Int :=
  if e.sign = some (CodePoint.ofChar '-') then -(digitsValue e.digits : Int)
  else digitsValue e.digits

/-- The value of a number: an exact integer, or with a fraction or an exponent the nearest
double-precision number. -/
def Numeral.value (n : Numeral) : Except ReadFailure Value :=
  match n.fraction, n.exponent with
  | none, none =>
    if digitLimit < n.whole.length then .error (.tooManyDigits n.whole.length)
    else
      let magnitude : Int := digitsValue n.whole
      .ok (.int (if n.negative then -magnitude else magnitude))
  | fraction, exponent =>
    let places := fraction.getD []
    let power : Int :=
      match exponent with
      | none => 0
      | some e => e.value
    .ok (.float (Binary64.ofDecimal n.negative (digitsValue (n.whole ++ places))
      (power - places.length)))

/-! ## The machine -/

/-- A container that is being read. Items are kept in reverse. -/
inductive Frame where
  | array (items : List Value)
  | object (members : Members) (name : Text)
deriving Repr

/-- What has been read, and so what may come next. -/
inductive State where
  /-- A value, or the end of an array that is still empty. -/
  | value (stack : List Frame) (mayClose : Bool)
  /-- A member's name, or the end of an object that is still empty. -/
  | name (members : Members) (stack : List Frame) (mayClose : Bool)
  | colon (members : Members) (name : Text) (stack : List Frame)
  | afterItem (items : List Value) (stack : List Frame)
  | afterMember (members : Members) (stack : List Frame)
  | done (v : Value)
deriving Repr

/-- How many containers may be open at once. -/
def depthLimit : Nat := 990

/-- A value goes into the innermost open container, or is the document. -/
def deliver (v : Value) : List Frame → State
  | [] => .done v
  | .array items :: stack => .afterItem (v :: items) stack
  | .object members name :: stack => .afterMember (members.set name v) stack

/-- Opens a container unless too many are open. -/
def opened (stack : List Frame) (state : State) : Except ReadFailure State :=
  if depthLimit ≤ stack.length then .error .tooDeep else .ok state

/-- The fault of an unexpected token or of the end of the text. -/
def State.fault : State → Fault
  | value _ _ => .expectedValue
  | name _ _ _ => .expectedName
  | colon _ _ _ => .expectedColon
  | afterItem _ _ => .expectedComma
  | afterMember _ _ => .expectedComma
  | done _ => .extraData

/-- One token at an offset. -/
def step (state : State) (located : Nat × Token) : Except ReadFailure State :=
  let (offset, token) := located
  let refuse : Except ReadFailure State := .error (.syntaxError ⟨state.fault, offset⟩)
  match state, token with
  | .value stack _, .openBracket => opened stack (.value (.array [] :: stack) true)
  | .value stack _, .openBrace => opened stack (.name [] stack true)
  | .value (.array [] :: stack) true, .closeBracket => .ok (deliver (.arr []) stack)
  | .value stack _, .text t => .ok (deliver (.str t) stack)
  | .value _ _, .brokenText error => .error (.syntaxError error)
  | .value stack _, .numeral n => n.value.map (deliver · stack)
  | .value stack _, .word v => .ok (deliver v stack)
  | .name members stack _, .text t => .ok (.colon members t stack)
  | .name _ _ _, .brokenText error => .error (.syntaxError error)
  | .name _ stack true, .closeBrace => .ok (deliver (.obj []) stack)
  | .colon members name stack, .colon => .ok (.value (.object members name :: stack) false)
  | .afterItem items stack, .comma => .ok (.value (.array items :: stack) false)
  | .afterItem items stack, .closeBracket => .ok (deliver (.arr items.reverse) stack)
  | .afterMember members stack, .comma => .ok (.name members stack false)
  | .afterMember members stack, .closeBrace => .ok (deliver (.obj members) stack)
  | _, _ => refuse

/-- The document, if the end of the text at an offset may come now. -/
def finish (offset : Nat) : State → Except ReadFailure Value
  | .done v => .ok v
  | state => .error (.syntaxError ⟨state.fault, offset⟩)

def read (t : Text) : Except ReadFailure Value := do
  let last ← (tokens t).foldlM step (.value [] false)
  finish t.length last

end RecordGen.Json
