import RecordGen.Source.Tree

/-!
# Readers

A reader takes leaves from the front of a list and makes trees of them. It takes whole leaves and
drops none, and where it fails nothing is taken.
-/

namespace RecordGen.Source

/-- Reads from leaves, or fails. -/
abbrev Reader := StateT (List Leaf) Option

namespace Reader

/-- The leaf in front is of some sort. -/
def sees (holds : Leaf → Bool) : Reader Bool := fun leaves =>
  some (leaves.head?.any holds, leaves)

/-- The leaf behind the one in front is of some sort. -/
def seesBehind (holds : Leaf → Bool) : Reader Bool := fun leaves =>
  some ((leaves.drop 1).head?.any holds, leaves)

/-- Takes a leaf of some sort. -/
def take (holds : Leaf → Bool) : Reader Tree
  | l :: rest => if holds l then some (.leaf l, rest) else none
  | [] => none

/-- Takes a certain mark. -/
def mark (s : String) : Reader Tree := take (·.isMark s)

/-- Takes a certain word. -/
def word (s : String) : Reader Tree := take (·.isWord s)

def name : Reader Tree := take Leaf.isName

def seesMark (s : String) : Reader Bool := sees (·.isMark s)

def seesWord (s : String) : Reader Bool := sees (·.isWord s)

/-- Takes a mark if it is in front. -/
def optionalMark (s : String) : Reader (List Tree) := do
  if ← seesMark s then return [← mark s] else return []

/-- Fails unless something holds. -/
def ensure (holds : Bool) : Reader Unit := if holds then pure () else failure

/-- Repeats a reader until it gives nothing. -/
def many (step : Reader (List Tree)) : (limit : Nat) → Reader (List Tree)
  | 0 => failure
  | limit + 1 => do
    let part ← step
    if part.isEmpty then return []
    else return part ++ (← many step limit)

end Reader

/-- The parts of a text that hold other parts of their own sort. -/
inductive Rule where
  | expression
  | inversion
  | factor
  | pattern
  | statement
deriving DecidableEq, Repr

/-- How parts are read inside of other parts: a reader for each rule, and a number that no repetition
exceeds. -/
structure Grammar where
  limit : Nat
  read : Rule → Reader Tree

namespace Grammar

open Reader

/-- Operands of one sort with joining marks or words between them. -/
def chain (g : Grammar) (kind : NodeKind) (joint : Reader (List Tree)) (operand : Reader Tree) :
    Reader Tree := do
  let first ← operand
  let step : Reader (List Tree) := do
    let joint ← joint
    if joint.isEmpty then return [] else return joint ++ [← operand]
  return .group kind (first :: (← many step g.limit))

/-- A comma and the items behind it. A comma may follow the last item; whether it does tells whether
an item can start behind it. -/
def moreItems (starts : Leaf → Bool) (item : Reader (List Tree)) : (limit : Nat) →
    Reader (List Tree)
  | 0 => failure
  | limit + 1 => do
    if ← seesMark "," then
      let comma ← mark ","
      if ← sees starts then
        let next ← item
        return comma :: next ++ (← moreItems starts item limit)
      else return [comma]
    else return []

/-- Items with commas between them and perhaps behind them. -/
def separated (g : Grammar) (starts : Leaf → Bool) (item : Reader (List Tree)) :
    Reader (List Tree) := do
  let first ← item
  return first ++ (← moreItems starts item g.limit)

end Grammar
end RecordGen.Source
