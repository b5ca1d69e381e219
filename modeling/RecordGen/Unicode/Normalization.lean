import RecordGen.Unicode.CombiningClass
import RecordGen.Unicode.Composition
import RecordGen.Unicode.Decomposition

/-!
# Normal forms of identifiers

The compatibility normal form (NFKC, Unicode 14) of a text that is made of the code points of
identifiers: every code point is replaced by those that it stands for, the marks behind each letter are
put in canonical order, and letters are composed with their marks again.
-/

namespace RecordGen.Unicode

/-- The code points that a code point stands for in the end. A composite loses one mark in each step. -/
def decomposed : Nat → Nat → List Nat
  | 0, n => [n]
  | depth + 1, n =>
    match compositeParts? n with
    | some (letter, mark) => decomposed depth letter ++ [mark]
    | none => (compatibilityForm? n).getD [n]

/-- Puts a code point in front of others that are in canonical order. A mark goes past those of lower
classes. -/
def insertMark (n : Nat) : List Nat → List Nat
  | [] => [n]
  | m :: rest =>
    if 0 < combiningClass m ∧ combiningClass m < combiningClass n then m :: insertMark n rest
    else n :: m :: rest

/-- The code points with the marks behind each letter in canonical order. -/
def canonicalOrder (points : List Nat) : List Nat := points.foldr insertMark []

/-- Composes a starter with the code points behind it, of which `marks` have been passed and stay. A
mark that stays blocks the code points of its own class and of lower ones. -/
def composeBehind (starter : Nat) (marks : List Nat) : List Nat → List Nat
  | [] => starter :: marks
  | n :: rest =>
    let composite :=
      if marks.all fun m => combiningClass m < combiningClass n then composite? starter n else none
    match composite with
    | some whole => composeBehind whole marks rest
    | none =>
      if combiningClass n = 0 then starter :: marks ++ composeBehind n [] rest
      else composeBehind starter (marks ++ [n]) rest

/-- Composes each starter with the marks behind it. -/
def compose : List Nat → List Nat
  | [] => []
  | n :: rest => if combiningClass n = 0 then composeBehind n [] rest else n :: compose rest

/-- The normal form of an identifier. No composite has more than three marks. -/
def normalForm (t : Text) : Text :=
  (compose (canonicalOrder ((t.map (·.val)).flatMap (decomposed 4)))).map CodePoint.ofNat

end RecordGen.Unicode
