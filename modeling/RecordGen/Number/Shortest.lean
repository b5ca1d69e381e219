import RecordGen.Text
import RecordGen.Number.Binary64

/-!
# Shortest decimals

The decimal text of a double-precision number: the fewest digits that read back as the number, and
of those the nearest to it.
-/

namespace RecordGen

/-- Decimal digits and the power of ten of their last place. -/
structure Decimal where
  digits : Nat
  exponent : Int
deriving DecidableEq, Repr, Inhabited

namespace Binary64

/-- The ends of the interval of reals that round to a positive number, in units of a quarter of its
last place. Below a power of two the neighbour is nearer. -/
def roundingInterval (m : Nat) (q : Int) : Nat × Nat :=
  let below := if m = Nat.pow 2 (precision - 1) ∧ minExponent < q then 1 else 2
  (4 * m - below, 4 * m + 2)

/-- A decimal as a fraction over the quarter-unit scale of exponent `q`. -/
def onQuarterScale (q : Int) (d : Decimal) : Nat × Nat :=
  let scale (base : Nat) (e : Int) (fraction : Nat × Nat) : Nat × Nat :=
    if 0 ≤ e then (fraction.1 * Nat.pow base e.toNat, fraction.2)
    else (fraction.1, fraction.2 * Nat.pow base (-e).toNat)
  scale 2 (2 - q) (scale 10 d.exponent (d.digits, 1))

/-- The decimal reads back as `m * 2^q`: it lies in the rounding interval, whose ends belong to it
when the significand is even. -/
def readsBack (m : Nat) (q : Int) (d : Decimal) : Bool :=
  let (lower, upper) := roundingInterval m q
  let (numerator, denominator) := onQuarterScale q d
  if m % 2 = 0 then lower * denominator ≤ numerator && numerator ≤ upper * denominator
  else lower * denominator < numerator && numerator < upper * denominator

/-- How far the decimal is from `m * 2^q`, over the denominator of `onQuarterScale`. -/
def distance (m : Nat) (q : Int) (d : Decimal) : Nat :=
  let (numerator, denominator) := onQuarterScale q d
  let exact := 4 * m * denominator
  if numerator ≤ exact then exact - numerator else numerator - exact

/-- The greatest integer below `m * 2^q / 10^e`. -/
def floorAt (m : Nat) (q e : Int) : Nat :=
  let numerator := m * Nat.pow 2 q.toNat * Nat.pow 10 (-e).toNat
  let denominator := Nat.pow 2 (-q).toNat * Nat.pow 10 e.toNat
  numerator / denominator

/-- The power of ten of the first digit of `m * 2^q`. -/
def leadingPower (m : Nat) (q : Int) : Int :=
  if 0 ≤ q then ((Nat.toDigits 10 (m * Nat.pow 2 q.toNat)).length : Int) - 1
  else
    let shift := (-q).toNat
    ((Nat.toDigits 10 (m * Nat.pow 5 shift)).length : Int) - 1 - shift

/-- On the grid of decimals with `count` digits, the better of the two neighbours of `m * 2^q` that
reads back; of two equally near ones the even one. -/
def onGrid (m : Nat) (q : Int) (count : Nat) : Option Decimal :=
  let e := leadingPower m q - count + 1
  let low : Decimal := ⟨floorAt m q e, e⟩
  let high : Decimal := ⟨low.digits + 1, e⟩
  match readsBack m q low, readsBack m q high with
  | true, true =>
    let fromLow := distance m q low
    let fromHigh := distance m q high
    if fromLow < fromHigh then some low
    else if fromHigh < fromLow then some high
    else if low.digits % 2 = 0 then some low
    else some high
  | true, false => some low
  | false, true => some high
  | false, false => none

/-- The first hit on the grids of `count`, `count + 1`, … digits. -/
def searchGrids (m : Nat) (q : Int) : Nat → Nat → Option Decimal
  | 0, _ => none
  | more + 1, count =>
    match onGrid m q count with
    | some d => some d
    | none => searchGrids m q more (count + 1)

/-- Without zeros at the end. -/
def stripZeros : Nat → Decimal → Decimal
  | 0, d => d
  | fuel + 1, d =>
    if d.digits ≠ 0 ∧ d.digits % 10 = 0 then stripZeros fuel ⟨d.digits / 10, d.exponent + 1⟩
    else d

/-- The shortest decimal that reads back as `m * 2^q`. Seventeen digits always suffice. -/
def shortest (m : Nat) (q : Int) : Decimal :=
  stripZeros 20 ((searchGrids m q 17 1).getD ⟨floorAt m q 0, 0⟩)

end Binary64

/-- When and how a decimal leaves positional notation. -/
structure NumberStyle where
  /-- The least power of ten of the first digit that is written positionally. -/
  leastPositional : Int
  /-- The greatest such power. -/
  greatestPositional : Int
  /-- Least count of digits of an exponent. -/
  exponentWidth : Nat

namespace NumberStyle

/-- Positional from `0.0001` to below `10^16`, always with a decimal place; exponents of two digits
at least and always with their sign. -/
def plain : NumberStyle := ⟨-4, 15, 2⟩

def showDecimal (style : NumberStyle) (d : Decimal) : Text :=
  let digits := Text.ofNat d.digits
  let point := Text.ofChar '.'
  let zeros (n : Nat) : Text := List.replicate n (CodePoint.ofChar '0')
  let power : Int := d.exponent + digits.length - 1
  if style.leastPositional ≤ power ∧ power ≤ style.greatestPositional then
    if 0 ≤ d.exponent then digits ++ zeros d.exponent.toNat ++ point ++ zeros 1
    else if 0 ≤ power then
      digits.take (power.toNat + 1) ++ point ++ digits.drop (power.toNat + 1)
    else zeros 1 ++ point ++ zeros (-power - 1).toNat ++ digits
  else
    let places := digits.drop 1
    let exponent := Text.ofNat power.natAbs
    digits.take 1 ++ (if places.isEmpty then [] else point ++ places) ++ Text.ofChar 'e' ++
      Text.ofChar (if power < 0 then '-' else '+') ++
      zeros (style.exponentWidth - exponent.length) ++ exponent

end NumberStyle

/-- The text of a number: its shortest decimal, `inf` with its sign, or `nan`. -/
def Binary64.text : Binary64 → Text
  | .nan => .ofString "nan"
  | .infinite negative => .ofString (if negative then "-inf" else "inf")
  | .finite negative m q =>
    (if negative then Text.ofChar '-' else []) ++
      (if m = 0 then .ofString "0.0" else NumberStyle.plain.showDecimal (Binary64.shortest m q))

end RecordGen
