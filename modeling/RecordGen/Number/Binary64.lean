/-!
# Binary floating point

Double-precision numbers as exact values: a significand of 53 bits times a power of two. Rounding
goes to the nearest value, ties to the even significand. Everything is exact arithmetic on natural
numbers, so no host floating point is involved.
-/

namespace RecordGen

/-- A double-precision number. A finite one is `(-1)^negative * significand * 2^exponent`. -/
inductive Binary64 where
  | nan
  | infinite (negative : Bool)
  | finite (negative : Bool) (significand : Nat) (exponent : Int)
deriving DecidableEq, Repr, Inhabited

namespace Binary64

/-- The number of bits of a significand. -/
def precision : Nat := 53

/-- The exponent of the smallest positive number, and of every subnormal. -/
def minExponent : Int := -1074

/-- The exponent of the largest finite numbers. -/
def maxExponent : Int := 971

def zero (negative : Bool) : Binary64 := finite negative 0 minExponent

/-- The integer nearest to a quotient; a tie goes to the even neighbour. -/
def roundQuotient (numerator denominator : Nat) : Nat :=
  let quotient := numerator / denominator
  let twice := 2 * (numerator % denominator)
  if twice < denominator then quotient
  else if denominator < twice then quotient + 1
  else quotient + quotient % 2

/-- A significand and an exponent as a number, after a carry out of the top bit is shifted back and
an exponent past the largest one becomes infinity. -/
def pack (negative : Bool) (significand : Nat) (exponent : Int) : Binary64 :=
  let (m, q) :=
    if significand = Nat.pow 2 precision then (Nat.pow 2 (precision - 1), exponent + 1)
    else (significand, exponent)
  if maxExponent < q then infinite negative else finite negative m q

/-- The exponent that gives a positive quotient a significand of 53 bits, or the least exponent. -/
def exponentOf (numerator denominator : Nat) : Int :=
  let guess : Int := (Nat.log2 numerator : Int) - Nat.log2 denominator - precision
  let fits (q : Int) : Bool :=
    if 0 ≤ q then numerator < Nat.pow 2 precision * (denominator * Nat.pow 2 q.toNat)
    else numerator * Nat.pow 2 (-q).toNat < Nat.pow 2 precision * denominator
  max (if fits guess then guess else guess + 1) minExponent

/-- The number nearest to a quotient of natural numbers. -/
def ofQuotient (negative : Bool) (numerator denominator : Nat) : Binary64 :=
  if numerator = 0 then zero negative
  else
    let q := exponentOf numerator denominator
    let m :=
      if 0 ≤ q then roundQuotient numerator (denominator * Nat.pow 2 q.toNat)
      else roundQuotient (numerator * Nat.pow 2 (-q).toNat) denominator
    pack negative m q

/-- The number nearest to `digits * 10^exponent`. Exponents so large or so small that the digits
cannot matter give infinity and zero without computing the power. -/
def ofDecimal (negative : Bool) (digits : Nat) (exponent : Int) : Binary64 :=
  if digits = 0 then zero negative
  else
    let magnitude : Int := (Nat.toDigits 10 digits).length + exponent
    if 400 < magnitude then infinite negative
    else if magnitude < -400 then zero negative
    else if 0 ≤ exponent then ofQuotient negative (digits * Nat.pow 10 exponent.toNat) 1
    else ofQuotient negative digits (Nat.pow 10 (-exponent).toNat)

/-- The number nearest to an integer, if it is in range. -/
def ofInt? (i : Int) : Option Binary64 :=
  match ofQuotient (i < 0) i.natAbs 1 with
  | infinite _ => none
  | x => some x

/-- The integer that the number equals, if it equals one. -/
def toInt? : Binary64 → Option Int
  | nan => none
  | infinite _ => none
  | finite negative m q =>
    let signed (n : Nat) : Int := if negative then -(n : Int) else n
    if 0 ≤ q then some (signed (m * Nat.pow 2 q.toNat))
    else if m % Nat.pow 2 (-q).toNat = 0 then some (signed (m / Nat.pow 2 (-q).toNat))
    else none

def isZero : Binary64 → Bool
  | finite _ m _ => m == 0
  | _ => false

/-- Equality of numbers: the two zeros are equal, and all NaNs are one value. -/
def sameNumber (x y : Binary64) : Bool :=
  (x.isZero && y.isZero) || x == y

end Binary64
end RecordGen
