import RecordGen.Text.Quoted
import RecordGen.Number.Shortest

/-!
# Document values

The values of a decoded document. Integers are exact, numbers with a fraction or an exponent are
double-precision, and an object is the list of its members in document order.
-/

namespace RecordGen.Json

/-- A decoded value. -/
inductive Value where
  | null
  | bool (b : Bool)
  | int (i : Int)
  | float (x : Binary64)
  | str (t : Text)
  | arr (items : List Value)
  | obj (members : List (Text × Value))
deriving Inhabited, Repr

/-- The members of an object, each name once. -/
abbrev Members := List (Text × Value)

/-- The greatest number of digits of an integer that is converted to a text or from one. -/
def digitLimit : Nat := 4300

namespace Value

/-! ## Equality -/

mutual

/-- Equality of values as written: kinds, texts, numbers and orders all count. -/
def decideEq : (v w : Value) → Decidable (v = w)
  | null, w => by
    cases w with
    | null => exact isTrue rfl
    | _ => exact isFalse (by simp)
  | bool b, w => by
    cases w with
    | bool c => exact decidable_of_iff (b = c) (by simp)
    | _ => exact isFalse (by simp)
  | int i, w => by
    cases w with
    | int j => exact decidable_of_iff (i = j) (by simp)
    | _ => exact isFalse (by simp)
  | float x, w => by
    cases w with
    | float y => exact decidable_of_iff (x = y) (by simp)
    | _ => exact isFalse (by simp)
  | str s, w => by
    cases w with
    | str t => exact decidable_of_iff (s = t) (by simp)
    | _ => exact isFalse (by simp)
  | arr xs, w =>
    match w with
    | arr ys =>
      match decideEqItems xs ys with
      | isTrue same => isTrue (by rw [same])
      | isFalse differ => isFalse (by simpa using differ)
    | null => isFalse (by simp)
    | bool _ => isFalse (by simp)
    | int _ => isFalse (by simp)
    | float _ => isFalse (by simp)
    | str _ => isFalse (by simp)
    | obj _ => isFalse (by simp)
  | obj xs, w =>
    match w with
    | obj ys =>
      match decideEqMembers xs ys with
      | isTrue same => isTrue (by rw [same])
      | isFalse differ => isFalse (by simpa using differ)
    | null => isFalse (by simp)
    | bool _ => isFalse (by simp)
    | int _ => isFalse (by simp)
    | float _ => isFalse (by simp)
    | str _ => isFalse (by simp)
    | arr _ => isFalse (by simp)

def decideEqItems : (xs ys : List Value) → Decidable (xs = ys)
  | [], [] => isTrue rfl
  | [], _ :: _ => isFalse (by simp)
  | _ :: _, [] => isFalse (by simp)
  | x :: xs, y :: ys =>
    match decideEq x y, decideEqItems xs ys with
    | isTrue head, isTrue tail => isTrue (by rw [head, tail])
    | isFalse head, _ => isFalse (by simp [head])
    | _, isFalse tail => isFalse (by simp [tail])

/-- Equality of member lists. -/
def decideEqMembers : (xs ys : List (Text × Value)) → Decidable (xs = ys)
  | [], [] => isTrue rfl
  | [], _ :: _ => isFalse (by simp)
  | _ :: _, [] => isFalse (by simp)
  | (name, x) :: xs, (name', y) :: ys =>
    match decEq name name', decideEq x y, decideEqMembers xs ys with
    | isTrue key, isTrue head, isTrue tail => isTrue (by rw [key, head, tail])
    | isFalse key, _, _ => isFalse (by simp [key])
    | _, isFalse head, _ => isFalse (by simp [head])
    | _, _, isFalse tail => isFalse (by simp [tail])

end

instance : DecidableEq Value := decideEq

/-! ## Reading and showing -/

/-- The value counts as true in a condition: not null, false, zero or empty. -/
def isTruthy : Value → Bool
  | null => false
  | bool b => b
  | int i => i ≠ 0
  | float x => !x.isZero
  | str t => !t.isEmpty
  | arr items => !items.isEmpty
  | obj members => !members.isEmpty

/-- The name of the value's kind, as messages give it. -/
def kindName : Value → Text
  | null => .ofString "NoneType"
  | bool _ => .ofString "bool"
  | int _ => .ofString "int"
  | float _ => .ofString "float"
  | str _ => .ofString "str"
  | arr _ => .ofString "list"
  | obj _ => .ofString "dict"

mutual

/-- The value as messages show it, on one line, with texts quoted. -/
def shown : Value → Text
  | null => .ofString "None"
  | bool b => .ofString (if b then "True" else "False")
  | int i => Text.ofInt i
  | float x => x.text
  | str t => t.quoted
  | arr items => .ofString "[" ++ shownItems items ++ .ofString "]"
  | obj members => .ofString "\x7b" ++ shownMembers members ++ .ofString "\x7d"

/-- The items with a comma between neighbours. -/
def shownItems : List Value → Text
  | [] => []
  | [item] => shown item
  | item :: next :: rest => shown item ++ .ofString ", " ++ shownItems (next :: rest)

/-- The members with a comma between neighbours. -/
def shownMembers : List (Text × Value) → Text
  | [] => []
  | [(name, value)] => name.quoted ++ .ofString ": " ++ shown value
  | (name, value) :: next :: rest =>
    name.quoted ++ .ofString ": " ++ shown value ++ .ofString ", " ++ shownMembers (next :: rest)

end

mutual

/-- No integer of the value has more digits than are converted. -/
def isSpellable : Value → Bool
  | int i => i.natAbs < Nat.pow 10 digitLimit
  | arr items => itemsAreSpellable items
  | obj members => membersAreSpellable members
  | _ => true

def itemsAreSpellable : List Value → Bool
  | [] => true
  | item :: rest => isSpellable item && itemsAreSpellable rest

def membersAreSpellable : List (Text × Value) → Bool
  | [] => true
  | (_, value) :: rest => isSpellable value && membersAreSpellable rest

end

/-- The value as plain text: a text is itself, every other value is shown as in messages. -/
def plain : Value → Text
  | str t => t
  | v => v.shown

end Value

namespace Members

def get? (members : Members) (name : Text) : Option Value := members.lookup name

/-- Sets a member: a name that is present keeps its place and takes the new value, a new name goes
to the end. -/
def set (members : Members) (name : Text) (value : Value) : Members :=
  match members with
  | [] => [(name, value)]
  | (other, old) :: rest =>
    if other = name then (name, value) :: rest else (other, old) :: set rest name value

end Members
end RecordGen.Json
