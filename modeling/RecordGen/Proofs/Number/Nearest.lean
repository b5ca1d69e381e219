import RecordGen.Number.Binary64
import Mathlib.Algebra.Order.Field.Power
import Mathlib.Data.Rat.Cast.Order
import Mathlib.Tactic.FieldSimp
import Mathlib.Tactic.Linarith
import Mathlib.Tactic.NormNum
import Mathlib.Tactic.Positivity
import Mathlib.Tactic.Ring

/-!
# Nearest numbers

What the conversions between integers and double-precision numbers compute, said on rational
numbers. A number converts to an integer exactly when it equals one. An integer converts to the
nearest number, a tie going to the even significand, and it converts at all exactly when its
magnitude is below `overflowBound`.

Rounding an integer `n` happens at the unit `2 ^ (log2 n - 52)`, where its significand has 53 bits.
Every number above `n` is a multiple of that unit, and the finer ones below are farther away than
the multiple `2 ^ 52`, so the nearest multiple is the nearest number.
-/

namespace RecordGen.Binary64

/-! ## Values -/

/-- The rational number that a sign, a significand and an exponent stand for. -/
def signedValue (negative : Bool) (significand : Nat) (exponent : Int) : ℚ :=
  (if negative then -1 else 1) * (significand * (2 : ℚ) ^ exponent)

/-- The rational number that a finite number equals. -/
def toRat? : Binary64 → Option ℚ
  | finite negative significand exponent => some (signedValue negative significand exponent)
  | _ => none

/-- A natural number over a power of two is an integer when nothing is left over. -/
theorem natCast_mul_inv_pow_eq_iff (m k : Nat) (i : Int) :
    (m : ℚ) * (2 ^ k)⁻¹ = (i : ℚ) ↔ m % 2 ^ k = 0 ∧ ((m / 2 ^ k : Nat) : Int) = i := by
  have positive : (0 : ℚ) < 2 ^ k := by positivity
  rw [← div_eq_mul_inv, div_eq_iff positive.ne']
  have cast : (m : ℚ) = i * 2 ^ k ↔ (m : Int) = i * (2 ^ k : Nat) := by
    norm_cast
  rw [cast]
  constructor
  · intro equal
    have divides : ((2 ^ k : Nat) : Int) ∣ m := ⟨i, by rw [equal, mul_comm]⟩
    have natDivides : 2 ^ k ∣ m := Int.natCast_dvd_natCast.mp divides
    refine ⟨Nat.mod_eq_zero_of_dvd natDivides, ?_⟩
    rw [Int.natCast_div, equal, Int.mul_ediv_cancel]
    positivity
  · rintro ⟨remainder, rfl⟩
    have natDivides : 2 ^ k ∣ m := Nat.dvd_of_mod_eq_zero remainder
    exact_mod_cast (Nat.div_mul_cancel natDivides).symm

/-- A number converts to an integer exactly when it equals that integer. -/
theorem toInt?_eq_some_iff (x : Binary64) (i : Int) :
    x.toInt? = some i ↔ x.toRat? = some (i : ℚ) := by
  cases x with
  | nan => simp [toInt?, toRat?]
  | infinite negative => simp [toInt?, toRat?]
  | finite negative m q =>
    by_cases whole : 0 ≤ q
    · obtain ⟨k, rfl⟩ := Int.eq_ofNat_of_zero_le whole
      cases negative <;> simp [toInt?, toRat?, signedValue] <;> norm_cast
    · obtain ⟨k, rfl⟩ : ∃ k : Nat, q = -(k : Int) := ⟨(-q).toNat, by omega⟩
      have positive : ¬ 0 ≤ -(k : Int) := whole
      cases negative with
      | false =>
        simp only [toInt?, toRat?, signedValue, positive, ↓reduceIte, Bool.false_eq_true,
          Option.ite_none_right_eq_some, Option.some.injEq, one_mul, neg_neg, Int.toNat_natCast,
          Nat.pow_eq, zpow_neg, zpow_natCast, natCast_mul_inv_pow_eq_iff]
      | true =>
        have flipped : -1 * ((m : ℚ) * (2 ^ k)⁻¹) = (i : ℚ) ↔
            (m : ℚ) * (2 ^ k)⁻¹ = ((-i : Int) : ℚ) := by
          rw [neg_one_mul, neg_eq_iff_eq_neg, Int.cast_neg]
        simp only [toInt?, toRat?, signedValue, positive, ↓reduceIte,
          Option.ite_none_right_eq_some, Option.some.injEq, neg_neg, Int.toNat_natCast,
          Nat.pow_eq, zpow_neg, zpow_natCast, flipped, natCast_mul_inv_pow_eq_iff]
        omega

/-! ## Nearest multiples -/

/-- No multiple of a unit is nearer to a rational number than this one, and if another is equally
near, this one is even. -/
def IsNearestMultiple (r unit : ℚ) (m : Nat) : Prop :=
  ∀ k : Nat, |r - m * unit| ≤ |r - k * unit| ∧ (|r - m * unit| = |r - k * unit| → k = m ∨ Even m)

theorem isNearestMultiple_of_le
    {r unit : ℚ} {m : Nat}
    (positive : 0 < unit)
    (close : 2 * |r - m * unit| ≤ unit)
    (tie : 2 * |r - m * unit| = unit → Even m) :
    IsNearestMultiple r unit m := by
  intro k
  by_cases same : k = m
  · exact ⟨by rw [same], fun _ => Or.inl same⟩
  · have apart : unit ≤ |(k : ℚ) * unit - m * unit| := by
      have distinct : (1 : ℚ) ≤ |(k : ℚ) - m| := by
        have step : 1 ≤ |(k : Int) - m| := Int.one_le_abs (by omega)
        exact_mod_cast step
      rw [← sub_mul, abs_mul, abs_of_pos positive]
      nlinarith
    have triangle : |(k : ℚ) * unit - m * unit| ≤ |r - k * unit| + |r - m * unit| := by
      rw [abs_sub_comm r]
      simpa using abs_sub_le ((k : ℚ) * unit) r (m * unit)
    refine ⟨by linarith, fun equal => Or.inr (tie ?_)⟩
    linarith

/-- A quotient is rounded down, rounded up, or a tie that goes to the even neighbour. -/
theorem roundQuotient_cases (n d : Nat) :
    (roundQuotient n d = n / d ∧ 2 * (n % d) < d) ∨
      (roundQuotient n d = n / d + 1 ∧ d < 2 * (n % d)) ∨
        (Even (roundQuotient n d) ∧ 2 * (n % d) = d ∧
          (roundQuotient n d = n / d ∨ roundQuotient n d = n / d + 1)) := by
  simp only [roundQuotient]
  split
  · exact Or.inl ⟨rfl, by assumption⟩
  · split
    · exact Or.inr (Or.inl ⟨rfl, by assumption⟩)
    · refine Or.inr (Or.inr ⟨?_, by omega, by omega⟩)
      rw [Nat.even_iff]
      omega

theorem isNearestMultiple_roundQuotient
    (n : Nat) {d : Nat} (positive : 0 < d) :
    IsNearestMultiple n d (roundQuotient n d) := by
  have split : (n : ℚ) = d * ((n / d : Nat) : ℚ) + ((n % d : Nat) : ℚ) := by
    exact_mod_cast (Nat.div_add_mod n d).symm
  have small : ((n % d : Nat) : ℚ) < d := by exact_mod_cast Nat.mod_lt n positive
  have nonnegative : (0 : ℚ) ≤ ((n % d : Nat) : ℚ) := by positivity
  have down : |(n : ℚ) - ((n / d : Nat) : ℚ) * d| = ((n % d : Nat) : ℚ) := by
    rw [← abs_of_nonneg nonnegative]
    congr 1
    linarith
  have up : |(n : ℚ) - ((n / d + 1 : Nat) : ℚ) * d| = d - ((n % d : Nat) : ℚ) := by
    rw [← abs_of_nonneg (sub_nonneg.mpr small.le), abs_sub_comm]
    congr 1
    push_cast
    linarith
  have unit : (0 : ℚ) < d := by exact_mod_cast positive
  rcases roundQuotient_cases n d with ⟨value, below⟩ | ⟨value, above⟩ | ⟨even, tie, value⟩
  · have strict : 2 * ((n % d : Nat) : ℚ) < d := by exact_mod_cast below
    rw [value]
    exact isNearestMultiple_of_le unit (by linarith) (fun equal => by linarith)
  · have strict : (d : ℚ) < 2 * ((n % d : Nat) : ℚ) := by exact_mod_cast above
    rw [value]
    exact isNearestMultiple_of_le unit (by linarith) (fun equal => by linarith)
  · have half : 2 * ((n % d : Nat) : ℚ) = d := by exact_mod_cast tie
    refine isNearestMultiple_of_le unit ?_ (fun _ => even)
    rcases value with value | value <;> rw [value] <;> linarith

/-- Rounding does not leave an interval of whole multiples. -/
theorem roundQuotient_mem_Icc
    {n d lower upper : Nat}
    (positive : 0 < d)
    (above : lower * d ≤ n)
    (below : n < upper * d) :
    lower ≤ roundQuotient n d ∧ roundQuotient n d ≤ upper := by
  have quotientAbove : lower ≤ n / d := (Nat.le_div_iff_mul_le positive).mpr above
  have quotientBelow : n / d < upper := (Nat.div_lt_iff_lt_mul positive).mpr below
  rcases roundQuotient_cases n d with ⟨value, _⟩ | ⟨value, _⟩ | ⟨_, _, value | value⟩ <;> omega

/-! ## Integers -/

/-- The exponent that gives a positive integer a significand of 53 bits. -/
theorem exponentOf_one {n : Nat} (positive : 0 < n) :
    exponentOf n 1 = (Nat.log2 n : Int) - 52 := by
  have lower : 2 ^ Nat.log2 n ≤ n := Nat.log2_self_le positive.ne'
  have one : Nat.log2 1 = 0 := by decide
  by_cases large : 53 ≤ Nat.log2 n
  · have exponent : ((Nat.log2 n : Int) - 53).toNat = Nat.log2 n - 53 := by omega
    have power : 2 ^ 53 * 2 ^ (Nat.log2 n - 53) = 2 ^ Nat.log2 n := by
      rw [← Nat.pow_add]
      congr 1
      omega
    have nonnegative : (53 : Int) ≤ Nat.log2 n := by omega
    simp [exponentOf, precision, minExponent, one, exponent, nonnegative]
    omega
  · have exponent : (53 - (Nat.log2 n : Int)).toNat = 53 - Nat.log2 n := by omega
    have power : 2 ^ Nat.log2 n * 2 ^ (53 - Nat.log2 n) = 2 ^ 53 := by
      rw [← Nat.pow_add]
      congr 1
      omega
    have scaled := Nat.mul_le_mul_right (2 ^ (53 - Nat.log2 n)) lower
    have negative : ¬ (53 : Int) ≤ Nat.log2 n := by omega
    simp [exponentOf, precision, minExponent, one, exponent, negative]
    omega

/-- The significand of a positive integer, before a carry out of its top bit is shifted back. -/
def integerSignificand (n : Nat) : Nat :=
  roundQuotient (n * 2 ^ (52 - Nat.log2 n)) (2 ^ (Nat.log2 n - 52))

theorem ofQuotient_one {n : Nat} (positive : 0 < n) (negative : Bool) :
    ofQuotient negative n 1 =
      pack negative (integerSignificand n) ((Nat.log2 n : Int) - 52) := by
  simp only [ofQuotient, exponentOf_one positive, positive.ne', ↓reduceIte, Nat.pow_eq, one_mul]
  congr 1
  by_cases large : (52 : Int) ≤ Nat.log2 n
  · have exponent : ((Nat.log2 n : Int) - 52).toNat = Nat.log2 n - 52 := by omega
    have none : 52 - Nat.log2 n = 0 := by omega
    simp [integerSignificand, large, exponent, none]
  · have exponent : (52 - (Nat.log2 n : Int)).toNat = 52 - Nat.log2 n := by omega
    have none : Nat.log2 n - 52 = 0 := by omega
    simp [integerSignificand, large, exponent, none]

theorem integerSignificand_bounds {n : Nat} (positive : 0 < n) :
    2 ^ 52 ≤ integerSignificand n ∧ integerSignificand n ≤ 2 ^ 53 := by
  have lower : 2 ^ Nat.log2 n ≤ n := Nat.log2_self_le positive.ne'
  have upper : n < 2 ^ (Nat.log2 n + 1) := Nat.lt_log2_self
  have powers : 2 ^ 52 * 2 ^ (Nat.log2 n - 52) = 2 ^ Nat.log2 n * 2 ^ (52 - Nat.log2 n) := by
    rw [← Nat.pow_add, ← Nat.pow_add]
    congr 1
    omega
  refine roundQuotient_mem_Icc (by positivity) ?_ ?_
  · rw [powers]
    exact Nat.mul_le_mul_right _ lower
  · rw [show 2 ^ 53 = 2 * 2 ^ 52 by decide, mul_assoc, powers, ← mul_assoc, ← Nat.pow_succ']
    exact Nat.mul_lt_mul_of_pos_right upper (by positivity)

theorem isNearestMultiple_integerSignificand {n : Nat} :
    IsNearestMultiple n ((2 : ℚ) ^ ((Nat.log2 n : Int) - 52)) (integerSignificand n) := by
  have scale : (2 : ℚ) ^ ((Nat.log2 n : Int) - 52) =
      ((2 ^ (Nat.log2 n - 52) : Nat) : ℚ) / ((2 ^ (52 - Nat.log2 n) : Nat) : ℚ) := by
    rw [eq_div_iff (by positivity)]
    push_cast
    rw [← zpow_natCast, ← zpow_natCast, ← zpow_add₀ (by norm_num)]
    congr 1
    omega
  intro k
  have nearest := isNearestMultiple_roundQuotient (n * 2 ^ (52 - Nat.log2 n))
    (d := 2 ^ (Nat.log2 n - 52)) (by positivity) k
  have rescaled (j : Nat) : |(n : ℚ) - j * (2 : ℚ) ^ ((Nat.log2 n : Int) - 52)| =
      |((n * 2 ^ (52 - Nat.log2 n) : Nat) : ℚ) - j * ((2 ^ (Nat.log2 n - 52) : Nat) : ℚ)| /
        ((2 ^ (52 - Nat.log2 n) : Nat) : ℚ) := by
    have unit : (0 : ℚ) < ((2 ^ (52 - Nat.log2 n) : Nat) : ℚ) := by positivity
    rw [scale, ← abs_of_pos unit, ← abs_div, abs_of_pos unit]
    congr 1
    field_simp
    push_cast
    ring
  rw [rescaled, rescaled]
  have unit : (0 : ℚ) < ((2 ^ (52 - Nat.log2 n) : Nat) : ℚ) := by positivity
  exact ⟨div_le_div_of_nonneg_right nearest.1 unit.le, fun equal =>
    nearest.2 ((div_left_inj' unit.ne').mp equal)⟩

/-! ## Doubles -/

/-- A finite number as it is stored: a significand of 53 bits, the top one set unless the exponent
is the least one, and an exponent in range. -/
def IsCanonical : Binary64 → Prop
  | finite _ significand exponent =>
    significand < 2 ^ 53 ∧ minExponent ≤ exponent ∧ exponent ≤ maxExponent ∧
      (2 ^ 52 ≤ significand ∨ exponent = minExponent)
  | _ => False

/-- The number nearest to an integer: no number is nearer, and if another is equally near, this one
has the even significand. The sign is that of the integer. -/
def IsNearest (i : Int) (x : Binary64) : Prop :=
  ∃ significand exponent,
    x = finite (i < 0) significand exponent ∧ x.IsCanonical ∧
      ∀ (y : Binary64) (r : ℚ), y.IsCanonical → y.toRat? = some r →
        |i - signedValue (i < 0) significand exponent| ≤ |i - r| ∧
          (|i - signedValue (i < 0) significand exponent| = |i - r| →
            r = signedValue (i < 0) significand exponent ∨ Even significand)

/-- Some multiple of the unit of an integer is as near to it as a number is, and only a multiple is
as near as its multiple. -/
theorem exists_multiple_of_isCanonical
    {n : ℚ} {e : Int} {y : Binary64} {r : ℚ}
    (bound : 2 ^ 52 * (2 : ℚ) ^ e ≤ n)
    (canonical : y.IsCanonical)
    (value : y.toRat? = some r) :
    ∃ k : Nat, |n - k * (2 : ℚ) ^ e| ≤ |n - r| ∧
      (|n - k * (2 : ℚ) ^ e| = |n - r| → r = k * (2 : ℚ) ^ e) := by
  have unit : (0 : ℚ) < (2 : ℚ) ^ e := by positivity
  have nonnegative : 0 ≤ n := by linarith [mul_pos (by norm_num : (0 : ℚ) < 2 ^ 52) unit]
  cases y with
  | nan => exact canonical.elim
  | infinite => exact canonical.elim
  | finite negative m q =>
    obtain ⟨short, -, -, -⟩ := canonical
    have magnitude : 0 ≤ (m : ℚ) * (2 : ℚ) ^ q := by positivity
    simp only [toRat?, signedValue, Option.some.injEq] at value
    -- Below zero, zero is the multiple.
    cases negative with
    | true =>
      have spelled : r = -((m : ℚ) * (2 : ℚ) ^ q) := by rw [← value]; simp
      have distance : |n - r| = n + (m : ℚ) * (2 : ℚ) ^ q := by
        rw [spelled, sub_neg_eq_add, abs_of_nonneg (by linarith)]
      have origin : |n - (0 : Nat) * (2 : ℚ) ^ e| = n := by
        rw [Nat.cast_zero, zero_mul, sub_zero, abs_of_nonneg nonnegative]
      refine ⟨0, by linarith, fun equal => ?_⟩
      rw [Nat.cast_zero, zero_mul]
      linarith
    | false =>
      have spelled : r = (m : ℚ) * (2 : ℚ) ^ q := by rw [← value]; simp
      -- From this exponent on a number is a multiple itself; a finer one is below `2 ^ 52` units.
      by_cases coarse : e ≤ q
      · refine ⟨m * 2 ^ (q - e).toNat, ?_⟩
        have same : r = ((m * 2 ^ (q - e).toNat : Nat) : ℚ) * (2 : ℚ) ^ e := by
          rw [spelled]
          push_cast
          rw [← zpow_natCast, mul_assoc, ← zpow_add₀ (by norm_num)]
          congr 2
          omega
        rw [← same]
        exact ⟨le_rfl, fun _ => rfl⟩
      · have below : (2 : ℚ) ^ q * 2 ≤ (2 : ℚ) ^ e := by
          rw [← zpow_add_one₀ (by norm_num)]
          exact zpow_le_zpow_right₀ (by norm_num) (by omega)
        have few : (m : ℚ) < 2 ^ 53 := by exact_mod_cast short
        have smaller : r < 2 ^ 52 * (2 : ℚ) ^ e := by
          have fine : (0 : ℚ) < (2 : ℚ) ^ q := by positivity
          rw [spelled]
          nlinarith
        refine ⟨2 ^ 52, ?_⟩
        have strict : |n - ((2 ^ 52 : Nat) : ℚ) * (2 : ℚ) ^ e| < |n - r| := by
          push_cast
          rw [abs_of_nonneg (by linarith), abs_of_nonneg (by linarith)]
          linarith
        exact ⟨strict.le, fun equal => absurd equal strict.ne⟩

/-- The distance of an integer from a number of the same sign is that of the magnitudes. -/
theorem abs_sub_signedValue
    (i : Int) (m : Nat) (e : Int) :
    |(i : ℚ) - signedValue (i < 0) m e| = |(i.natAbs : ℚ) - m * (2 : ℚ) ^ e| := by
  by_cases negative : i < 0
  · have absolute : (i.natAbs : ℚ) = -(i : ℚ) := by
      rw [Nat.cast_natAbs, abs_of_neg negative, Int.cast_neg]
    rw [absolute, ← abs_neg]
    simp only [signedValue, negative, decide_true, if_true]
    congr 1
    ring
  · have absolute : (i.natAbs : ℚ) = (i : ℚ) := by
      rw [Nat.cast_natAbs, abs_of_nonneg (not_lt.mp negative)]
    simp [absolute, signedValue, negative]

/-- Seen from below zero, every number has a mirror image at the same distance. -/
theorem exists_mirror_of_isCanonical
    {y : Binary64} {r : ℚ}
    (i : Int)
    (canonical : y.IsCanonical)
    (value : y.toRat? = some r) :
    ∃ (z : Binary64) (s : ℚ), z.IsCanonical ∧ z.toRat? = some s ∧
      |(i : ℚ) - r| = |(i.natAbs : ℚ) - s| ∧
        ∀ (m : Nat) (e : Int), s = m * (2 : ℚ) ^ e → r = signedValue (i < 0) m e := by
  by_cases negative : i < 0
  · cases y with
    | nan => exact canonical.elim
    | infinite => exact canonical.elim
    | finite sign m q =>
        refine ⟨finite (!sign) m q, -r, canonical, ?_, ?_, fun m e same => ?_⟩
        · simp only [toRat?, Option.some.injEq] at value ⊢
          rw [← value]
          cases sign <;> simp [signedValue]
        · rw [Nat.cast_natAbs, abs_of_neg negative, Int.cast_neg, ← abs_neg]
          congr 1
          ring
        · simp only [signedValue, negative, decide_true, if_true, ← same]
          ring
  · refine ⟨y, r, canonical, value, ?_, fun m e same => ?_⟩
    · rw [Nat.cast_natAbs, abs_of_nonneg (not_lt.mp negative)]
    · simp [signedValue, negative, same]

/-- Packing keeps the value: a carry out of the top bit only moves into the exponent. -/
theorem pack_eq (negative : Bool) {m : Nat} (e : Int) (small : m ≤ 2 ^ 53) :
    ∃ (m' : Nat) (e' : Int), (m' : ℚ) * (2 : ℚ) ^ e' = m * (2 : ℚ) ^ e ∧ (Even m → Even m') ∧
      m' < 2 ^ 53 ∧ (2 ^ 52 ≤ m → 2 ^ 52 ≤ m') ∧ e' = (if m = 2 ^ 53 then e + 1 else e) ∧
      pack negative m e =
        if maxExponent < e' then infinite negative else finite negative m' e' := by
  by_cases carry : m = 2 ^ 53
  · refine ⟨2 ^ 52, e + 1, ?_, fun _ => ⟨2 ^ 51, by decide⟩, by decide, fun _ => le_rfl,
      by rw [if_pos carry], ?_⟩
    · rw [carry, zpow_add_one₀ (by norm_num)]
      push_cast
      ring
    · simp [pack, precision, carry]
  · refine ⟨m, e, rfl, id, by omega, id, by rw [if_neg carry], ?_⟩
    rw [pack]
    simp only [precision, Nat.pow_eq, carry, ↓reduceIte]

/-- The conversion of an integer other than zero: the nearest multiple of its unit, with a carry
shifted back, unless the exponent is past the largest one. -/
theorem ofInt?_of_ne_zero {i : Int} (nonzero : i ≠ 0) :
    ∃ (m : Nat) (e : Int),
      (m : ℚ) * (2 : ℚ) ^ e =
        integerSignificand i.natAbs * (2 : ℚ) ^ ((Nat.log2 i.natAbs : Int) - 52) ∧
      (Even (integerSignificand i.natAbs) → Even m) ∧
      m < 2 ^ 53 ∧ 2 ^ 52 ≤ m ∧
      e = (if integerSignificand i.natAbs = 2 ^ 53 then (Nat.log2 i.natAbs : Int) - 52 + 1
        else (Nat.log2 i.natAbs : Int) - 52) ∧
      ofInt? i = if maxExponent < e then none else some (finite (i < 0) m e) := by
  have positive : 0 < i.natAbs := Int.natAbs_pos.mpr nonzero
  have bounds := integerSignificand_bounds positive
  obtain ⟨m, e, value, even, short, normal, exponent, packed⟩ :=
    pack_eq (i < 0) ((Nat.log2 i.natAbs : Int) - 52) bounds.2
  refine ⟨m, e, value, even, short, normal bounds.1, exponent, ?_⟩
  rw [ofInt?, ofQuotient_one positive, packed]
  by_cases overflow : maxExponent < e <;> simp [overflow]

/-- Among all numbers none is nearer to a natural number than its rounded multiple. -/
theorem nearest_among_canonical
    {n m : Nat} {e : Int} {y : Binary64} {r : ℚ}
    (positive : 0 < n)
    (value : (m : ℚ) * (2 : ℚ) ^ e = integerSignificand n * (2 : ℚ) ^ ((Nat.log2 n : Int) - 52))
    (even : Even (integerSignificand n) → Even m)
    (canonical : y.IsCanonical)
    (spelled : y.toRat? = some r) :
    |(n : ℚ) - m * (2 : ℚ) ^ e| ≤ |(n : ℚ) - r| ∧
      (|(n : ℚ) - m * (2 : ℚ) ^ e| = |(n : ℚ) - r| → r = m * (2 : ℚ) ^ e ∨ Even m) := by
  have bound : 2 ^ 52 * (2 : ℚ) ^ ((Nat.log2 n : Int) - 52) ≤ (n : ℚ) := by
    have lower : 2 ^ Nat.log2 n ≤ n := Nat.log2_self_le positive.ne'
    have exponents : ((52 : Nat) : Int) + ((Nat.log2 n : Int) - 52) = Nat.log2 n := by omega
    rw [← zpow_natCast, ← zpow_add₀ (by norm_num), exponents, zpow_natCast]
    exact_mod_cast lower
  obtain ⟨k, near, same⟩ := exists_multiple_of_isCanonical bound canonical spelled
  have nearest := isNearestMultiple_integerSignificand (n := n) k
  rw [value]
  refine ⟨nearest.1.trans near, fun equal => ?_⟩
  have reached := same (le_antisymm near (equal ▸ nearest.1))
  rcases nearest.2 (le_antisymm nearest.1 (equal ▸ near)) with chosen | parity
  · exact Or.inl (by rw [reached, chosen])
  · exact Or.inr (even parity)

/-- An integer converts to the number nearest to it. -/
theorem isNearest_of_ofInt?
    {i : Int} {x : Binary64}
    (converted : ofInt? i = some x) :
    IsNearest i x := by
  by_cases zero : i = 0
  · subst zero
    have spelled : x = finite false 0 minExponent := by
      simpa [ofInt?, ofQuotient, Binary64.zero] using converted.symm
    refine ⟨0, minExponent, by simpa using spelled, ?_, fun y r _ _ => ?_⟩
    · rw [spelled]
      exact ⟨by decide, le_rfl, by decide, Or.inr rfl⟩
    · simp [signedValue]
  · obtain ⟨m, e, value, even, short, normal, exponent, conversion⟩ := ofInt?_of_ne_zero zero
    have finiteExponent : ¬ maxExponent < e := by
      intro overflow
      rw [conversion, if_pos overflow] at converted
      cases converted
    rw [conversion, if_neg finiteExponent, Option.some.injEq] at converted
    have least : minExponent ≤ e := by
      rw [exponent]
      simp only [minExponent]
      split <;> omega
    refine ⟨m, e, converted.symm, ?_, fun y r canonical spelled => ?_⟩
    · rw [← converted]
      exact ⟨short, least, not_lt.mp finiteExponent, Or.inl normal⟩
    · obtain ⟨z, mirrored, canonical', spelled', distance, back⟩ :=
        exists_mirror_of_isCanonical i canonical spelled
      have nearest :=
        nearest_among_canonical (Int.natAbs_pos.mpr zero) value even canonical' spelled'
      rw [abs_sub_signedValue, distance]
      exact ⟨nearest.1, fun equal => (nearest.2 equal).imp_left (back m e)⟩

/-- Rounding reaches an even multiple from half a unit below it. -/
theorem roundQuotient_eq_succ_iff
    {n h c : Nat}
    (odd : c % 2 = 1)
    (below : n < (c + 1) * (2 * h)) :
    roundQuotient n (2 * h) = c + 1 ↔ c * (2 * h) + h ≤ n := by
  have positive : 0 < 2 * h := by
    rcases Nat.eq_zero_or_pos (2 * h) with zero | positive
    · simp [zero] at below
    · exact positive
  have divided := Nat.div_add_mod n (2 * h)
  have small := Nat.mod_lt n positive
  have quotient : n / (2 * h) ≤ c := Nat.le_of_lt_succ ((Nat.div_lt_iff_lt_mul positive).mpr below)
  rcases quotient.lt_or_eq with less | equal
  · have scaled : (n / (2 * h) + 1) * (2 * h) ≤ c * (2 * h) := Nat.mul_le_mul_right _ less
    have far : n < c * (2 * h) := by
      calc n = 2 * h * (n / (2 * h)) + n % (2 * h) := divided.symm
        _ < (n / (2 * h) + 1) * (2 * h) := by rw [Nat.add_mul, Nat.mul_comm (n / (2 * h))]; omega
        _ ≤ c * (2 * h) := scaled
    rcases roundQuotient_cases n (2 * h) with ⟨value, _⟩ | ⟨value, _⟩ | ⟨_, _, value | value⟩ <;>
      omega
  · rw [equal, Nat.mul_comm] at divided
    rcases roundQuotient_cases n (2 * h) with
      ⟨value, _⟩ | ⟨value, _⟩ | ⟨even, _, value | value⟩
    · omega
    · omega
    · rw [value, equal, Nat.even_iff] at even
      omega
    · omega

/-- The least magnitude that rounds past the largest finite number: it lies halfway between that
number and the next power of two. -/
def overflowBound : Nat := 2 ^ 1024 - 2 ^ 970

theorem overflowBound_eq : overflowBound = (2 ^ 53 - 1) * (2 * 2 ^ 970) + 2 ^ 970 := by
  have power : 2 ^ 1024 = 2 ^ 54 * 2 ^ 970 := by rw [← Nat.pow_add]
  rw [overflowBound, power]
  generalize 2 ^ 970 = h
  omega

/-- The exponent of a converted integer, carry included, is in range below the bound. -/
theorem exponent_le_max_iff {n : Nat} (positive : 0 < n) :
    (if integerSignificand n = 2 ^ 53 then (Nat.log2 n : Int) - 52 + 1
      else (Nat.log2 n : Int) - 52) ≤ maxExponent ↔ n < overflowBound := by
  have lower : 2 ^ Nat.log2 n ≤ n := Nat.log2_self_le positive.ne'
  have upper : n < 2 ^ (Nat.log2 n + 1) := Nat.lt_log2_self
  rw [overflowBound_eq]
  simp only [maxExponent]
  -- In the last binade it is the carry that decides; below all fit, and above none.
  rcases lt_trichotomy (Nat.log2 n) 1023 with less | equal | greater
  · have fits : n < 2 ^ 53 * 2 ^ 970 := by
      have exponent : Nat.log2 n + 1 ≤ 53 + 970 := by omega
      rw [← pow_add]
      exact upper.trans_le (pow_le_pow_right₀ one_le_two exponent)
    have within : n < (2 ^ 53 - 1) * (2 * 2 ^ 970) + 2 ^ 970 := by
      generalize 2 ^ 970 = h at *
      omega
    simp only [within, iff_true]
    split <;> omega
  · have unit : 2 ^ (Nat.log2 n - 52) = 2 * 2 ^ 970 := by
      rw [equal, show 1023 - 52 = 970 + 1 by decide, pow_succ']
    have below : n < (2 ^ 53 - 1 + 1) * (2 * 2 ^ 970) := by
      have powers : 2 ^ (1023 + 1) = (2 ^ 53 - 1 + 1) * (2 * 2 ^ 970) := by
        rw [← pow_succ', Nat.sub_add_cancel Nat.one_le_two_pow, ← pow_add]
      rwa [equal, powers] at upper
    have carried : integerSignificand n = 2 ^ 53 ↔ (2 ^ 53 - 1) * (2 * 2 ^ 970) + 2 ^ 970 ≤ n := by
      have rounded := roundQuotient_eq_succ_iff (by decide) below
      have exact : 2 ^ (52 - Nat.log2 n) = 1 := by rw [Nat.sub_eq_zero_of_le (by omega), pow_zero]
      rwa [integerSignificand, unit, exact, mul_one]
    rw [← not_le, ← carried]
    split <;> omega
  · have large : 2 ^ 54 * 2 ^ 970 ≤ n := by
      have exponent : 54 + 970 ≤ Nat.log2 n := by omega
      rw [← pow_add]
      exact (pow_le_pow_right₀ one_le_two exponent).trans lower
    have beyond : ¬ n < (2 ^ 53 - 1) * (2 * 2 ^ 970) + 2 ^ 970 := by
      generalize 2 ^ 970 = h at *
      omega
    simp only [beyond, iff_false, not_le]
    split <;> omega

/-- An integer converts exactly when its magnitude does not overflow. -/
theorem exists_ofInt?_iff (i : Int) :
    (∃ x, ofInt? i = some x) ↔ i.natAbs < overflowBound := by
  by_cases zero : i = 0
  · subst zero
    have converted : ofInt? 0 = some (Binary64.zero false) := rfl
    have positive : 0 < overflowBound := by
      rw [overflowBound_eq]
      positivity
    simp [converted, positive]
  · obtain ⟨m, e, -, -, -, -, exponent, conversion⟩ := ofInt?_of_ne_zero zero
    rw [← exponent_le_max_iff (Int.natAbs_pos.mpr zero), ← exponent, conversion]
    by_cases overflow : maxExponent < e
    · simp [overflow]
    · simp [overflow, not_lt.mp overflow]

/-! ## Uniqueness -/

/-- A number with a larger exponent is larger: its top bit is set. -/
theorem lt_of_exponent_lt
    {negative : Bool} {m m' : Nat} {q q' : Int}
    (left : (finite negative m q).IsCanonical)
    (right : (finite negative m' q').IsCanonical)
    (less : q < q') :
    (m : ℚ) * (2 : ℚ) ^ q < m' * (2 : ℚ) ^ q' := by
  obtain ⟨short, least, -, -⟩ := left
  obtain ⟨-, -, -, normal | subnormal⟩ := right
  · have unit : (0 : ℚ) < (2 : ℚ) ^ q := by positivity
    have few : (m : ℚ) < 2 ^ 53 := by exact_mod_cast short
    have many : (2 : ℚ) ^ 52 ≤ m' := by exact_mod_cast normal
    have coarser : (2 : ℚ) ^ q * 2 ≤ (2 : ℚ) ^ q' := by
      rw [← zpow_add_one₀ (by norm_num)]
      exact zpow_le_zpow_right₀ (by norm_num) (by omega)
    calc (m : ℚ) * (2 : ℚ) ^ q < 2 ^ 53 * (2 : ℚ) ^ q := mul_lt_mul_of_pos_right few unit
      _ = 2 ^ 52 * ((2 : ℚ) ^ q * 2) := by ring
      _ ≤ m' * (2 : ℚ) ^ q' := mul_le_mul many coarser (by positivity) (by positivity)
  · omega

/-- A number is spelled by one significand and one exponent. -/
theorem eq_of_isCanonical
    {negative : Bool} {m m' : Nat} {q q' : Int}
    (left : (finite negative m q).IsCanonical)
    (right : (finite negative m' q').IsCanonical)
    (same : (m : ℚ) * (2 : ℚ) ^ q = m' * (2 : ℚ) ^ q') :
    m = m' ∧ q = q' := by
  rcases lt_trichotomy q q' with less | equal | greater
  · exact absurd same (lt_of_exponent_lt left right less).ne
  · subst equal
    have unit : (2 : ℚ) ^ q ≠ 0 := by positivity
    exact ⟨by exact_mod_cast mul_right_cancel₀ unit same, rfl⟩
  · exact absurd same (lt_of_exponent_lt right left greater).ne'

/-- Between two numbers with even significands lies the successor of the smaller one. -/
theorem exists_between_of_even
    {negative : Bool} {m m' : Nat} {q q' : Int}
    (left : (finite negative m q).IsCanonical)
    (right : (finite negative m' q').IsCanonical)
    (even : Even m)
    (even' : Even m')
    (less : (m : ℚ) * (2 : ℚ) ^ q < m' * (2 : ℚ) ^ q') :
    ∃ k : Nat, (finite negative k q).IsCanonical ∧
      (m : ℚ) * (2 : ℚ) ^ q < k * (2 : ℚ) ^ q ∧ (k : ℚ) * (2 : ℚ) ^ q < m' * (2 : ℚ) ^ q' := by
  have unit : (0 : ℚ) < (2 : ℚ) ^ q := by positivity
  have successor : (finite negative (m + 1) q).IsCanonical := by
    obtain ⟨short, least, greatest, normal⟩ := left
    obtain ⟨half, rfl⟩ := even
    exact ⟨by omega, least, greatest, by omega⟩
  have above : (m : ℚ) * (2 : ℚ) ^ q < ((m + 1 : Nat) : ℚ) * (2 : ℚ) ^ q := by
    apply mul_lt_mul_of_pos_right _ unit
    exact_mod_cast Nat.lt_succ_self m
  refine ⟨m + 1, successor, above, ?_⟩
  rcases lt_trichotomy q q' with finer | equal | coarser
  · exact lt_of_exponent_lt successor right finer
  · subst equal
    have ordered : m < m' := by exact_mod_cast lt_of_mul_lt_mul_right less unit.le
    have apart : m + 1 < m' := by
      obtain ⟨half, rfl⟩ := even
      obtain ⟨half', rfl⟩ := even'
      omega
    apply mul_lt_mul_of_pos_right _ unit
    exact_mod_cast apart
  · exact absurd less (lt_of_exponent_lt right left coarser).not_gt

/-- A nearest number compared with another one of its sign. -/
theorem IsNearest.distance_le
    {i : Int} {m m' : Nat} {q q' : Int}
    (nearest : (finite (i < 0) m q).IsNearest i)
    (canonical : (finite (i < 0) m' q').IsCanonical) :
    |(i.natAbs : ℚ) - m * (2 : ℚ) ^ q| ≤ |(i.natAbs : ℚ) - m' * (2 : ℚ) ^ q'| ∧
      (|(i.natAbs : ℚ) - m * (2 : ℚ) ^ q| = |(i.natAbs : ℚ) - m' * (2 : ℚ) ^ q'| →
        (m' : ℚ) * (2 : ℚ) ^ q' = m * (2 : ℚ) ^ q ∨ Even m) := by
  obtain ⟨significand, exponent, same, -, closest⟩ := nearest
  obtain ⟨-, rfl, rfl⟩ := finite.inj same
  have compared := closest _ _ canonical rfl
  rw [abs_sub_signedValue, abs_sub_signedValue] at compared
  refine ⟨compared.1, fun tie => (compared.2 tie).imp_left fun equal => ?_⟩
  by_cases negative : i < 0
  · simpa [signedValue, negative] using equal
  · simpa [signedValue, negative] using equal

/-- No nearest number is below another: the number between them would be nearer. -/
theorem IsNearest.not_below
    {i : Int} {m m' : Nat} {q q' : Int}
    (left : (finite (i < 0) m q).IsNearest i)
    (right : (finite (i < 0) m' q').IsNearest i)
    (canonical : (finite (i < 0) m q).IsCanonical)
    (canonical' : (finite (i < 0) m' q').IsCanonical) :
    ¬ (m : ℚ) * (2 : ℚ) ^ q < m' * (2 : ℚ) ^ q' := by
  intro less
  have forward := left.distance_le canonical'
  have backward := right.distance_le canonical
  have tie := le_antisymm forward.1 backward.1
  have even : Even m := (forward.2 tie).resolve_left less.ne'
  have even' : Even m' := (backward.2 tie.symm).resolve_left less.ne
  obtain ⟨k, between, above, below⟩ := exists_between_of_even canonical canonical' even even' less
  have closest := (left.distance_le between).1
  -- The integer is the midpoint of the two, so what lies between them is nearer than both.
  rcases abs_eq_abs.mp tie with equal | opposite
  · exact less.ne (by linarith)
  · have low : 0 ≤ (i.natAbs : ℚ) - m * (2 : ℚ) ^ q := by linarith
    rw [abs_of_nonneg low] at closest
    exact (abs_lt.mpr ⟨by linarith, by linarith⟩).not_ge closest

/-- An integer has one nearest number. -/
theorem IsNearest.unique
    {i : Int} {x y : Binary64}
    (left : x.IsNearest i)
    (right : y.IsNearest i) :
    x = y := by
  obtain ⟨m, q, rfl, canonical, -⟩ := id left
  obtain ⟨m', q', rfl, canonical', -⟩ := id right
  have notBelow := left.not_below right canonical canonical'
  have notAbove := right.not_below left canonical' canonical
  obtain ⟨rfl, rfl⟩ :=
    eq_of_isCanonical canonical canonical' (le_antisymm (not_lt.mp notAbove) (not_lt.mp notBelow))
  rfl

end RecordGen.Binary64
