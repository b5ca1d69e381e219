import RecordGen.Text

/-!
# Encodings of text

UTF-8, and UTF-16 and UTF-32 in both byte orders: an encoder beside each decoder. A decoder says
where and why it stops. Decoders of documents let encoded surrogates through; `Surrogates.refused`
is the strict reading of UTF-8.
-/

namespace RecordGen

/-- A sequence of octets. -/
abbrev Bytes := List UInt8

/-- Which of the two octets of a unit comes first. -/
inductive ByteOrder where
  | bigEndian
  | littleEndian
deriving DecidableEq, Repr

/-- Whether a decoder passes encoded surrogates on. -/
inductive Surrogates where
  | passed
  | refused
deriving DecidableEq, Repr

/-- Why octets are no encoded text. -/
inductive EncodingFault where
  | invalidStart
  | invalidContinuation
  | unexpectedEnd
  | truncated
  | outOfRange
deriving DecidableEq, Repr

namespace EncodingFault

def reason : EncodingFault → Text
  | invalidStart => .ofString "invalid start byte"
  | invalidContinuation => .ofString "invalid continuation byte"
  | unexpectedEnd => .ofString "unexpected end of data"
  | truncated => .ofString "truncated data"
  | outOfRange => .ofString "code point not in range(0x110000)"

end EncodingFault

/-- A fault at an offset, counted in octets; `width` octets are to blame. -/
structure EncodingError where
  fault : EncodingFault
  offset : Nat
  width : Nat
deriving DecidableEq, Repr

/-- The wording of an error of UTF-8 with its place among the octets. -/
def EncodingError.message (bytes : Bytes) (error : EncodingError) : Text :=
  let place :=
    if error.width = 1 then
      Text.ofString "byte 0x" ++ Text.hex 2 ((bytes.drop error.offset).head?.getD 0).toNat ++
        .ofString " in position " ++ .ofNat error.offset
    else
      Text.ofString "bytes in position " ++ .ofNat error.offset ++ .ofString "-" ++
        .ofNat (error.offset + error.width - 1)
  Text.ofString "'utf-8' codec can't decode " ++ place ++ .ofString ": " ++ error.fault.reason

/-! ## UTF-8 -/

namespace Utf8

/-- The octets of one code point; a surrogate is encoded like its neighbours. -/
def encodePoint (c : CodePoint) : Bytes :=
  let n := c.val
  if n < 0x80 then [UInt8.ofNat n]
  else if n < 0x800 then [UInt8.ofNat (0xC0 + n / 0x40), UInt8.ofNat (0x80 + n % 0x40)]
  else if n < 0x10000 then
    [UInt8.ofNat (0xE0 + n / 0x1000), UInt8.ofNat (0x80 + n / 0x40 % 0x40),
      UInt8.ofNat (0x80 + n % 0x40)]
  else
    [UInt8.ofNat (0xF0 + n / 0x40000), UInt8.ofNat (0x80 + n / 0x1000 % 0x40),
      UInt8.ofNat (0x80 + n / 0x40 % 0x40), UInt8.ofNat (0x80 + n % 0x40)]

def encode (t : Text) : Bytes := t.flatMap encodePoint

/-- The octets of a text that holds no surrogate. -/
def encode? (t : Text) : Option Bytes :=
  if t.hasSurrogate then none else some (encode t)

/-- The six payload bits of a continuation octet. -/
def payload? (b : UInt8) : Option Nat :=
  if 0x80 ≤ b.toNat ∧ b.toNat < 0xC0 then some (b.toNat - 0x80) else none

/-- The second octet of a sequence of three continues its first octet without being an overlong
form or, when they are refused, the start of a surrogate. -/
def secondOfThree (surrogates : Surrogates) (first second : Nat) : Bool :=
  0x80 ≤ second && second < 0xC0 && !(first = 0xE0 && second < 0xA0) &&
    !(first = 0xED && 0xA0 ≤ second && surrogates = .refused)

/-- The second octet of a sequence of four continues its first octet within the code space. -/
def secondOfFour (first second : Nat) : Bool :=
  0x80 ≤ second && second < 0xC0 && !(first = 0xF0 && second < 0x90) &&
    !(first = 0xF4 && 0x90 ≤ second)

/-- A decoded code point in front of the rest. -/
def keep (n : Nat) (rest : Except EncodingError Text) : Except EncodingError Text :=
  rest.map (CodePoint.ofNat n :: ·)

/-- Reads octets that start at an offset. -/
def decodeFrom (surrogates : Surrogates) (offset : Nat) : Bytes → Except EncodingError Text
  | [] => .ok []
  | a :: rest =>
    let first := a.toNat
    let bad := fun (fault : EncodingFault) (width : Nat) => Except.error ⟨fault, offset, width⟩
    if first < 0x80 then keep first (decodeFrom surrogates (offset + 1) rest)
    else if first < 0xC2 then bad .invalidStart 1
    else if first < 0xE0 then
      match rest with
      | [] => bad .unexpectedEnd 1
      | b :: rest =>
        match payload? b with
        | none => bad .invalidContinuation 1
        | some low => keep ((first - 0xC0) * 0x40 + low) (decodeFrom surrogates (offset + 2) rest)
    else if first < 0xF0 then
      match rest with
      | [] => bad .unexpectedEnd 1
      | [b] =>
        if secondOfThree .refused first b.toNat then bad .unexpectedEnd 2
        else bad .invalidContinuation 1
      | b :: c :: rest =>
        if secondOfThree surrogates first b.toNat then
          match payload? c with
          | none =>
            bad .invalidContinuation (if secondOfThree .refused first b.toNat then 2 else 1)
          | some low =>
            keep ((first - 0xE0) * 0x1000 + (b.toNat - 0x80) * 0x40 + low)
              (decodeFrom surrogates (offset + 3) rest)
        else bad .invalidContinuation 1
    else if first < 0xF5 then
      match rest with
      | [] => bad .unexpectedEnd 1
      | [b] =>
        if secondOfFour first b.toNat then bad .unexpectedEnd 2 else bad .invalidContinuation 1
      | [b, c] =>
        if secondOfFour first b.toNat then
          match payload? c with
          | none => bad .invalidContinuation 2
          | some _ => bad .unexpectedEnd 3
        else bad .invalidContinuation 1
      | b :: c :: d :: rest =>
        if secondOfFour first b.toNat then
          match payload? c, payload? d with
          | none, _ => bad .invalidContinuation 2
          | some _, none => bad .invalidContinuation 3
          | some middle, some low =>
            keep ((first - 0xF0) * 0x40000 + (b.toNat - 0x80) * 0x1000 + middle * 0x40 + low)
              (decodeFrom surrogates (offset + 4) rest)
        else bad .invalidContinuation 1
    else bad .invalidStart 1

/-- Reads octets as UTF-8. -/
def decode (surrogates : Surrogates) (bytes : Bytes) : Except EncodingError Text :=
  decodeFrom surrogates 0 bytes

end Utf8

/-! ## UTF-16 -/

namespace Utf16

/-- The two octets of a unit. -/
def encodeUnit (order : ByteOrder) (n : Nat) : Bytes :=
  match order with
  | .bigEndian => [UInt8.ofNat (n / 0x100), UInt8.ofNat (n % 0x100)]
  | .littleEndian => [UInt8.ofNat (n % 0x100), UInt8.ofNat (n / 0x100)]

/-- The octets of one code point: one unit, or a pair of surrogates past U+FFFF. -/
def encodePoint (order : ByteOrder) (c : CodePoint) : Bytes :=
  if c.val < 0x10000 then encodeUnit order c.val
  else
    encodeUnit order (0xD800 + (c.val - 0x10000) / 0x400) ++
      encodeUnit order (0xDC00 + (c.val - 0x10000) % 0x400)

def encode (order : ByteOrder) (t : Text) : Bytes := t.flatMap (encodePoint order)

/-- The unit that two octets spell. -/
def unit (order : ByteOrder) (a b : UInt8) : CodePoint :=
  match order with
  | .bigEndian => CodePoint.ofNat (a.toNat * 0x100 + b.toNat)
  | .littleEndian => CodePoint.ofNat (b.toNat * 0x100 + a.toNat)

/-- Reads units; an odd octet at the end is a fault. -/
def unitsFrom (order : ByteOrder) (offset : Nat) : Bytes → Except EncodingError Text
  | [] => .ok []
  | [_] => .error ⟨.truncated, offset, 1⟩
  | a :: b :: rest => (unitsFrom order (offset + 2) rest).map (unit order a b :: ·)

/-- Joins each high surrogate with a low one that follows it; all else stays. -/
def joinPairs : Text → Text
  | [] => []
  | [c] => [c]
  | c :: d :: rest =>
    if c.isHighSurrogate && d.isLowSurrogate then CodePoint.ofSurrogates c d :: joinPairs rest
    else c :: joinPairs (d :: rest)

/-- Reads octets that start at an offset as UTF-16. -/
def decodeFrom (order : ByteOrder) (offset : Nat) (bytes : Bytes) : Except EncodingError Text :=
  (unitsFrom order offset bytes).map joinPairs

end Utf16

/-! ## UTF-32 -/

namespace Utf32

/-- The four octets of a code point. -/
def encodePoint (order : ByteOrder) (c : CodePoint) : Bytes :=
  let octets := [UInt8.ofNat 0, UInt8.ofNat (c.val / 0x10000), UInt8.ofNat (c.val / 0x100 % 0x100),
    UInt8.ofNat (c.val % 0x100)]
  match order with
  | .bigEndian => octets
  | .littleEndian => octets.reverse

def encode (order : ByteOrder) (t : Text) : Bytes := t.flatMap (encodePoint order)

/-- The number that four octets spell. -/
def number (order : ByteOrder) (a b c d : UInt8) : Nat :=
  match order with
  | .bigEndian => ((a.toNat * 0x100 + b.toNat) * 0x100 + c.toNat) * 0x100 + d.toNat
  | .littleEndian => ((d.toNat * 0x100 + c.toNat) * 0x100 + b.toNat) * 0x100 + a.toNat

/-- Reads octets that start at an offset as UTF-32. -/
def decodeFrom (order : ByteOrder) (offset : Nat) : Bytes → Except EncodingError Text
  | [] => .ok []
  | a :: b :: c :: d :: rest =>
    let n := number order a b c d
    if n < 0x110000 then (decodeFrom order (offset + 4) rest).map (CodePoint.ofNat n :: ·)
    else .error ⟨.outOfRange, offset, 4⟩
  | rest => .error ⟨.truncated, offset, rest.length⟩

end Utf32
end RecordGen
