import RecordGen.Text.Encoding
import RecordGen.Json.Reader

/-!
# Documents as text or octets

A document arrives as a text or as octets. The encoding of octets is told by a byte order mark, and
without one by where zeros stand among the first four octets.
-/

namespace RecordGen.Json

inductive Document where
  | text (t : Text)
  | octets (bytes : Bytes)
deriving DecidableEq, Repr

/-- The encodings that octets may have. A byte order mark is not part of the text. -/
inductive Encoding where
  | utf8
  | utf8WithMark
  | utf16 (order : ByteOrder)
  | utf16WithMark (order : ByteOrder)
  | utf32 (order : ByteOrder)
  | utf32WithMark (order : ByteOrder)
deriving DecidableEq, Repr

namespace Encoding

/-- The encoding that octets without a byte order mark suggest by what is null among the first. -/
def detectUnmarked : Bytes → Encoding
  | a :: b :: c :: d :: _ =>
    if a = 0 then (if b = 0 then utf32 .bigEndian else utf16 .bigEndian)
    else if b = 0 then (if c = 0 ∧ d = 0 then utf32 .littleEndian else utf16 .littleEndian)
    else utf8
  | [a, b] => if a = 0 then utf16 .bigEndian else if b = 0 then utf16 .littleEndian else utf8
  | _ => utf8

/-- The encoding that the first octets suggest. -/
def detect (bytes : Bytes) : Encoding :=
  if [0x00, 0x00, 0xFE, 0xFF].isPrefixOf bytes then utf32WithMark .bigEndian
  else if [0xFF, 0xFE, 0x00, 0x00].isPrefixOf bytes then utf32WithMark .littleEndian
  else if [0xFE, 0xFF].isPrefixOf bytes then utf16WithMark .bigEndian
  else if [0xFF, 0xFE].isPrefixOf bytes then utf16WithMark .littleEndian
  else if [0xEF, 0xBB, 0xBF].isPrefixOf bytes then utf8WithMark
  else detectUnmarked bytes

/-- The text of octets, surrogates let through. Offsets of faults count from the first octet, but
behind the mark of UTF-8. -/
def decode (encoding : Encoding) (bytes : Bytes) : Except EncodingError Text :=
  match encoding with
  | utf8 => Utf8.decode .passed bytes
  | utf8WithMark => Utf8.decode .passed (bytes.drop 3)
  | utf16 order => Utf16.decodeFrom order 0 bytes
  | utf16WithMark order => Utf16.decodeFrom order 2 (bytes.drop 2)
  | utf32 order => Utf32.decodeFrom order 0 bytes
  | utf32WithMark order => Utf32.decodeFrom order 4 (bytes.drop 4)

def encode (encoding : Encoding) (t : Text) : Bytes :=
  match encoding with
  | utf8 => Utf8.encode t
  | utf8WithMark => Utf8.encode (CodePoint.byteOrderMark :: t)
  | utf16 order => Utf16.encode order t
  | utf16WithMark order => Utf16.encode order (CodePoint.byteOrderMark :: t)
  | utf32 order => Utf32.encode order t
  | utf32WithMark order => Utf32.encode order (CodePoint.byteOrderMark :: t)

end Encoding

/-- Why a raw document yields no value. -/
inductive DocumentFailure where
  | encoding (error : EncodingError)
  | reading (failure : ReadFailure)
deriving DecidableEq, Repr

/-- A text that must not start with a byte order mark. -/
def readText (t : Text) : Except ReadFailure Value :=
  if t.head? = some CodePoint.byteOrderMark then .error (.syntaxError ⟨.byteOrderMark, 0⟩)
  else read t

def Document.value : Document → Except DocumentFailure Value
  | text t => (readText t).mapError .reading
  | octets bytes =>
    match (Encoding.detect bytes).decode bytes with
    | .error error => .error (.encoding error)
    | .ok t => (read t).mapError .reading

end RecordGen.Json
