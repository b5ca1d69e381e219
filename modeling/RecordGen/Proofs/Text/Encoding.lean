import RecordGen.Text.Encoding
import RecordGen.Proofs.Outcome
import Mathlib.Tactic.SplitIfs

/-!
# Encodings read back

A text without surrogates is what the octets of its encoding are read as, in UTF-8, UTF-16 and UTF-32
and in both byte orders. A decoder takes the octets of one code point at a time, so each encoding has
a lemma for one code point and an induction on the text.
-/

namespace RecordGen

theorem CodePoint.ofNat_val (c : CodePoint) : CodePoint.ofNat c.val = c := dif_pos c.isLt

theorem CodePoint.val_ofNat
    {n : Nat}
    (small : n < 0x110000) :
    (CodePoint.ofNat n).val = n := by
  simp [ofNat, small]

theorem Text.hasSurrogate_cons_eq_false
    {c : CodePoint} {t : Text} :
    Text.hasSurrogate (c :: t) = false ↔ c.isSurrogate = false ∧ t.hasSurrogate = false := by
  simp only [hasSurrogate, List.any_cons, Bool.or_eq_false_iff]

theorem toNat_octet {n : Nat} (octet : n < 0x100) : (UInt8.ofNat n).toNat = n := by
  rw [UInt8.toNat_ofNat', Nat.mod_eq_of_lt octet]

/-! ## UTF-8 -/

namespace Utf8

variable {surrogates : Surrogates} {n : Nat}

theorem payload?_ofNat (small : n < 0x40) : payload? (UInt8.ofNat (0x80 + n)) = some n := by
  rw [payload?, toNat_octet (by omega), if_pos (by omega), Nat.add_sub_cancel_left]

theorem decodeFrom_one
    (small : n < 0x80)
    (offset : Nat) (rest : Bytes) :
    decodeFrom surrogates offset (UInt8.ofNat n :: rest) =
      keep n (decodeFrom surrogates (offset + 1) rest) := by
  have first : (UInt8.ofNat n).toNat = n := toNat_octet (by omega)
  rw [decodeFrom.eq_def]
  simp only [first, small, ↓reduceIte]

theorem decodeFrom_two
    (large : 0x80 ≤ n)
    (small : n < 0x800)
    (offset : Nat) (rest : Bytes) :
    decodeFrom surrogates offset
        (UInt8.ofNat (0xC0 + n / 0x40) :: UInt8.ofNat (0x80 + n % 0x40) :: rest) =
      keep n (decodeFrom surrogates (offset + 2) rest) := by
  have first : (UInt8.ofNat (0xC0 + n / 0x40)).toNat = 0xC0 + n / 0x40 := toNat_octet (by omega)
  have low : payload? (UInt8.ofNat (0x80 + n % 0x40)) = some (n % 0x40) :=
    payload?_ofNat (by omega)
  have joined : (0xC0 + n / 0x40 - 0xC0) * 0x40 + n % 0x40 = n := by omega
  have noAscii : ¬ 0xC0 + n / 0x40 < 0x80 := by omega
  have noOverlong : ¬ 0xC0 + n / 0x40 < 0xC2 := by omega
  have lead : 0xC0 + n / 0x40 < 0xE0 := by omega
  rw [decodeFrom]
  simp only [first, noAscii, noOverlong, lead, low, joined, ↓reduceIte]

theorem decodeFrom_three
    (large : 0x800 ≤ n)
    (small : n < 0x10000)
    (scalar : ¬ (0xD800 ≤ n ∧ n < 0xE000))
    (offset : Nat) (rest : Bytes) :
    decodeFrom surrogates offset
        (UInt8.ofNat (0xE0 + n / 0x1000) :: UInt8.ofNat (0x80 + n / 0x40 % 0x40) ::
          UInt8.ofNat (0x80 + n % 0x40) :: rest) =
      keep n (decodeFrom surrogates (offset + 3) rest) := by
  have first : (UInt8.ofNat (0xE0 + n / 0x1000)).toNat = 0xE0 + n / 0x1000 := toNat_octet (by omega)
  have second : (UInt8.ofNat (0x80 + n / 0x40 % 0x40)).toNat = 0x80 + n / 0x40 % 0x40 :=
    toNat_octet (by omega)
  have low : payload? (UInt8.ofNat (0x80 + n % 0x40)) = some (n % 0x40) :=
    payload?_ofNat (by omega)
  have continues : secondOfThree surrogates (0xE0 + n / 0x1000) (0x80 + n / 0x40 % 0x40) = true := by
    simp only [secondOfThree, Bool.and_eq_true, Bool.not_eq_true', Bool.and_eq_false_iff,
      decide_eq_true_eq, decide_eq_false_iff_not]
    omega
  have joined : (0xE0 + n / 0x1000 - 0xE0) * 0x1000 + (0x80 + n / 0x40 % 0x40 - 0x80) * 0x40 +
      n % 0x40 = n := by
    omega
  have noAscii : ¬ 0xE0 + n / 0x1000 < 0x80 := by omega
  have noOverlong : ¬ 0xE0 + n / 0x1000 < 0xC2 := by omega
  have noPair : ¬ 0xE0 + n / 0x1000 < 0xE0 := by omega
  have lead : 0xE0 + n / 0x1000 < 0xF0 := by omega
  rw [decodeFrom]
  simp only [first, second, noAscii, noOverlong, noPair, lead, continues, low, joined, ↓reduceIte]

theorem decodeFrom_four
    (large : 0x10000 ≤ n)
    (small : n < 0x110000)
    (offset : Nat) (rest : Bytes) :
    decodeFrom surrogates offset
        (UInt8.ofNat (0xF0 + n / 0x40000) :: UInt8.ofNat (0x80 + n / 0x1000 % 0x40) ::
          UInt8.ofNat (0x80 + n / 0x40 % 0x40) :: UInt8.ofNat (0x80 + n % 0x40) :: rest) =
      keep n (decodeFrom surrogates (offset + 4) rest) := by
  have first : (UInt8.ofNat (0xF0 + n / 0x40000)).toNat = 0xF0 + n / 0x40000 :=
    toNat_octet (by omega)
  have second : (UInt8.ofNat (0x80 + n / 0x1000 % 0x40)).toNat = 0x80 + n / 0x1000 % 0x40 :=
    toNat_octet (by omega)
  have middle : payload? (UInt8.ofNat (0x80 + n / 0x40 % 0x40)) = some (n / 0x40 % 0x40) :=
    payload?_ofNat (by omega)
  have low : payload? (UInt8.ofNat (0x80 + n % 0x40)) = some (n % 0x40) :=
    payload?_ofNat (by omega)
  have continues : secondOfFour (0xF0 + n / 0x40000) (0x80 + n / 0x1000 % 0x40) = true := by
    simp only [secondOfFour, Bool.and_eq_true, Bool.not_eq_true', Bool.and_eq_false_iff,
      decide_eq_true_eq, decide_eq_false_iff_not]
    omega
  have joined : (0xF0 + n / 0x40000 - 0xF0) * 0x40000 + (0x80 + n / 0x1000 % 0x40 - 0x80) * 0x1000 +
      n / 0x40 % 0x40 * 0x40 + n % 0x40 = n := by
    omega
  have noAscii : ¬ 0xF0 + n / 0x40000 < 0x80 := by omega
  have noOverlong : ¬ 0xF0 + n / 0x40000 < 0xC2 := by omega
  have noPair : ¬ 0xF0 + n / 0x40000 < 0xE0 := by omega
  have noTriple : ¬ 0xF0 + n / 0x40000 < 0xF0 := by omega
  have lead : 0xF0 + n / 0x40000 < 0xF5 := by omega
  rw [decodeFrom]
  simp only [first, second, noAscii, noOverlong, noPair, noTriple, lead, continues, middle, low,
    joined, ↓reduceIte]

/-- The octets of a code point that is no surrogate are read as it. -/
theorem decodeFrom_encodePoint_append
    {c : CodePoint}
    (scalar : c.isSurrogate = false)
    (offset : Nat) (rest : Bytes) :
    decodeFrom surrogates offset (encodePoint c ++ rest) =
      keep c.val (decodeFrom surrogates (offset + (encodePoint c).length) rest) := by
  have noSurrogate : ¬ (0xD800 ≤ c.val ∧ c.val < 0xE000) := by
    simpa [CodePoint.isSurrogate] using scalar
  unfold encodePoint
  dsimp only
  split_ifs with one two three
  · exact decodeFrom_one one offset rest
  · exact decodeFrom_two (by omega) two offset rest
  · exact decodeFrom_three (by omega) three noSurrogate offset rest
  · exact decodeFrom_four (by omega) c.isLt offset rest

/-- A text without surrogates is what its octets in UTF-8 are read as. -/
theorem decodeFrom_encode
    {t : Text}
    (scalars : t.hasSurrogate = false)
    (offset : Nat) :
    decodeFrom surrogates offset (encode t) = .ok t := by
  induction t generalizing offset with
  | nil =>
      rfl
  | cons c rest inductionHypothesis =>
      obtain ⟨scalar, others⟩ := Text.hasSurrogate_cons_eq_false.mp scalars
      have read := inductionHypothesis others (offset + (encodePoint c).length)
      rw [encode] at read
      rw [encode, List.flatMap_cons, decodeFrom_encodePoint_append scalar, read, keep, c.ofNat_val]
      rfl

end Utf8

/-! ## UTF-16 -/

namespace Utf16

variable {order : ByteOrder} {n : Nat} {c : CodePoint}

/-- The units of a code point: itself, or a pair of surrogates. -/
def units (c : CodePoint) : List Nat :=
  if c.val < 0x10000 then [c.val]
  else [0xD800 + (c.val - 0x10000) / 0x400, 0xDC00 + (c.val - 0x10000) % 0x400]

theorem encodePoint_eq (order : ByteOrder) (c : CodePoint) :
    encodePoint order c = (units c).flatMap (encodeUnit order) := by
  unfold encodePoint units
  split_ifs <;> simp

theorem lt_of_mem_units (member : n ∈ units c) : n < 0x10000 := by
  have inCodeSpace := c.isLt
  unfold units at member
  split_ifs at member with small
  · rwa [List.mem_singleton.mp member]
  · simp only [List.mem_cons, List.not_mem_nil, or_false] at member
    omega

theorem unitsFrom_encodeUnit_append
    (small : n < 0x10000)
    (offset : Nat) (rest : Bytes) :
    unitsFrom order offset (encodeUnit order n ++ rest) =
      (unitsFrom order (offset + 2) rest).map (CodePoint.ofNat n :: ·) := by
  have high : (UInt8.ofNat (n / 0x100)).toNat = n / 0x100 := toNat_octet (by omega)
  have low : (UInt8.ofNat (n % 0x100)).toNat = n % 0x100 := toNat_octet (by omega)
  have joined : n / 0x100 * 0x100 + n % 0x100 = n := Nat.div_add_mod' n 0x100
  cases order <;>
    simp only [encodeUnit, List.cons_append, List.nil_append, unitsFrom, unit, high, low, joined]

theorem unitsFrom_flatMap_append
    {numbers : List Nat}
    (small : ∀ n ∈ numbers, n < 0x10000)
    (offset : Nat) (rest : Bytes) :
    unitsFrom order offset (numbers.flatMap (encodeUnit order) ++ rest) =
      (unitsFrom order (offset + 2 * numbers.length) rest).map
        (numbers.map CodePoint.ofNat ++ ·) := by
  induction numbers generalizing offset with
  | nil =>
      change unitsFrom order offset rest = (unitsFrom order offset rest).map id
      cases unitsFrom order offset rest <;> rfl
  | cons n numbers inductionHypothesis =>
      obtain ⟨own, others⟩ := List.forall_mem_cons.mp small
      have further : offset + 2 + 2 * numbers.length = offset + 2 * (n :: numbers).length := by
        rw [List.length_cons]
        omega
      rw [List.flatMap_cons, List.append_assoc, unitsFrom_encodeUnit_append own,
        inductionHypothesis others, further]
      cases unitsFrom order (offset + 2 * (n :: numbers).length) rest <;> rfl

theorem unitsFrom_encode (t : Text) (offset : Nat) :
    unitsFrom order offset (encode order t) =
      .ok (t.flatMap fun c => (units c).map CodePoint.ofNat) := by
  induction t generalizing offset with
  | nil =>
      rfl
  | cons c rest inductionHypothesis =>
      have read := inductionHypothesis (offset + 2 * (units c).length)
      rw [encode] at read
      rw [encode, List.flatMap_cons, encodePoint_eq,
        unitsFrom_flatMap_append (fun n member => lt_of_mem_units member), read]
      rfl

/-- The units of a code point that is no surrogate are joined to it again. -/
theorem joinPairs_units_append
    (scalar : c.isSurrogate = false)
    (rest : Text) :
    joinPairs ((units c).map CodePoint.ofNat ++ rest) = c :: joinPairs rest := by
  have inCodeSpace := c.isLt
  unfold units
  split_ifs with small
  · have noHigh : c.isHighSurrogate = false := by
      simp only [CodePoint.isSurrogate, CodePoint.isHighSurrogate, Bool.and_eq_false_iff,
        decide_eq_false_iff_not] at scalar ⊢
      omega
    simp only [List.map_cons, List.map_nil, List.cons_append, List.nil_append, c.ofNat_val]
    cases rest with
    | nil => rfl
    | cons d rest => simp only [joinPairs, noHigh, Bool.false_and, Bool.false_eq_true, ↓reduceIte]
  -- Beyond the first plane the units are a high and a low surrogate, which give the number back.
  · have high : (CodePoint.ofNat (0xD800 + (c.val - 0x10000) / 0x400)).val =
        0xD800 + (c.val - 0x10000) / 0x400 :=
      CodePoint.val_ofNat (by omega)
    have low : (CodePoint.ofNat (0xDC00 + (c.val - 0x10000) % 0x400)).val =
        0xDC00 + (c.val - 0x10000) % 0x400 :=
      CodePoint.val_ofNat (by omega)
    have isPair : ((CodePoint.ofNat (0xD800 + (c.val - 0x10000) / 0x400)).isHighSurrogate &&
        (CodePoint.ofNat (0xDC00 + (c.val - 0x10000) % 0x400)).isLowSurrogate) = true := by
      simp only [CodePoint.isHighSurrogate, CodePoint.isLowSurrogate, high, low, Bool.and_eq_true,
        decide_eq_true_eq]
      omega
    have joined : CodePoint.ofSurrogates (CodePoint.ofNat (0xD800 + (c.val - 0x10000) / 0x400))
        (CodePoint.ofNat (0xDC00 + (c.val - 0x10000) % 0x400)) = c := by
      have number : 0x10000 + (0xD800 + (c.val - 0x10000) / 0x400 - 0xD800) * 0x400 +
          (0xDC00 + (c.val - 0x10000) % 0x400 - 0xDC00) = c.val := by
        omega
      rw [CodePoint.ofSurrogates, high, low, number, c.ofNat_val]
    simp only [List.map_cons, List.map_nil, List.cons_append, List.nil_append, joinPairs, isPair,
      joined, ↓reduceIte]

/-- A text without surrogates is what its octets in UTF-16 are read as. -/
theorem decodeFrom_encode
    {t : Text}
    (scalars : t.hasSurrogate = false)
    (offset : Nat) :
    decodeFrom order offset (encode order t) = .ok t := by
  have joined : joinPairs (t.flatMap fun c => (units c).map CodePoint.ofNat) = t := by
    induction t with
    | nil =>
        rfl
    | cons c rest inductionHypothesis =>
        obtain ⟨scalar, others⟩ := Text.hasSurrogate_cons_eq_false.mp scalars
        rw [List.flatMap_cons, joinPairs_units_append scalar, inductionHypothesis others]
  rw [decodeFrom, unitsFrom_encode]
  exact congrArg Except.ok joined

end Utf16

/-! ## UTF-32 -/

namespace Utf32

variable {order : ByteOrder}

theorem decodeFrom_encodePoint_append
    (c : CodePoint) (offset : Nat) (rest : Bytes) :
    decodeFrom order offset (encodePoint order c ++ rest) =
      (decodeFrom order (offset + 4) rest).map (c :: ·) := by
  have inCodeSpace := c.isLt
  have first : (UInt8.ofNat 0).toNat = 0 := rfl
  have second : (UInt8.ofNat (c.val / 0x10000)).toNat = c.val / 0x10000 := toNat_octet (by omega)
  have third : (UInt8.ofNat (c.val / 0x100 % 0x100)).toNat = c.val / 0x100 % 0x100 :=
    toNat_octet (by omega)
  have last : (UInt8.ofNat (c.val % 0x100)).toNat = c.val % 0x100 := toNat_octet (by omega)
  have joined : ((0 * 0x100 + c.val / 0x10000) * 0x100 + c.val / 0x100 % 0x100) * 0x100 +
      c.val % 0x100 = c.val := by
    omega
  cases order <;>
    simp only [encodePoint, List.reverse_cons, List.reverse_nil, List.nil_append, List.cons_append,
      decodeFrom, number, first, second, third, last, joined, inCodeSpace, ↓reduceIte, c.ofNat_val]

/-- A text is what its octets in UTF-32 are read as. -/
theorem decodeFrom_encode (t : Text) (offset : Nat) :
    decodeFrom order offset (encode order t) = .ok t := by
  induction t generalizing offset with
  | nil =>
      rfl
  | cons c rest inductionHypothesis =>
      have read := inductionHypothesis (offset + 4)
      rw [encode] at read
      rw [encode, List.flatMap_cons, decodeFrom_encodePoint_append, read]
      rfl

end Utf32
end RecordGen
