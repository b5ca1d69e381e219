import RecordGen.Schema.Decode
import RecordGen.Proofs.Json.Limits
import RecordGen.Proofs.Text.Encoding

/-!
# Documents as octets

A document that is read as a text ends in the same way when it comes as octets, in UTF-8, UTF-16 or
UTF-32, in either byte order, with a byte order mark or without one. Without a mark the encoding is
told by the zeros among the first four octets, so what has to be known of a document is little: its
first code point is ASCII, and neither it nor the second one is null.
-/

namespace RecordGen

def CodePoint.isPlainAscii (c : CodePoint) : Bool := 0 < c.val && c.val < 0x80

theorem CodePoint.isPlainAscii_iff {c : CodePoint} :
    c.isPlainAscii = true ↔ 0 < c.val ∧ c.val < 0x80 := by
  simp [isPlainAscii]

namespace Json

/-- The first code point of the text is ASCII, and neither it nor the second one is null. -/
def IsDetectable (t : Text) : Prop :=
  ∃ c rest, t = c :: rest ∧ c.isPlainAscii = true ∧ ∀ d ∈ rest.head?, d.val ≠ 0

/-! ## Tokens that no document has -/

/-- The token is a fault wherever it stands. -/
def Token.IsFault : Token → Prop
  | stray => True
  | brokenText _ => True
  | _ => False

section Tokens

variable {t rest : Text} {c null : CodePoint} {fuel offset used : Nat} {tok : Token}

theorem exists_fault_of_step
    (isFault : tok.IsFault)
    (state : State) (offset : Nat) :
    ∃ error, step state (offset, tok) = .error (.syntaxError error) := by
  cases tok with
  | stray =>
      exact ⟨⟨state.fault, offset⟩, by simp only [step]⟩
  | brokenText error =>
      simp only [step]
      split <;> first | contradiction | exact ⟨_, rfl⟩
  | _ =>
      exact isFault.elim

theorem ne_of_isPlainAscii
    {d : CodePoint}
    (foreign : c.isPlainAscii = false)
    (plain : d.isPlainAscii = true) :
    c ≠ d := by
  rintro rfl
  rw [foreign] at plain
  cases plain

/-- Every word of a document starts with two code points that are plain. -/
theorem isPlainAscii_of_mem_words :
    ∀ entry ∈ words, ∃ c d rest, entry.1 = c :: d :: rest ∧ c.isPlainAscii = true ∧
      d.isPlainAscii = true := by
  have all : (words.all fun entry =>
      2 ≤ entry.1.length && (entry.1.take 2).all CodePoint.isPlainAscii) = true := by
    decide
  intro entry member
  obtain ⟨long, plain⟩ := Bool.and_eq_true_iff.mp (List.all_eq_true.mp all entry member)
  obtain ⟨c, behind, start⟩ :=
    List.exists_cons_of_length_pos (Nat.lt_of_succ_lt (of_decide_eq_true long))
  rw [start] at long plain
  obtain ⟨d, rest, rfl⟩ :=
    List.exists_cons_of_length_pos (Nat.lt_of_succ_lt_succ (of_decide_eq_true long))
  refine ⟨c, d, rest, start, ?_, ?_⟩
  · exact List.all_eq_true.mp plain c (by simp)
  · exact List.all_eq_true.mp plain d (by simp)

theorem token_of_foreign
    (foreign : c.isPlainAscii = false) :
    token fuel offset c rest = (.stray, 1) := by
  have ne {x : Char} (plain : (CodePoint.ofChar x).isPlainAscii = true) :
      c ≠ CodePoint.ofChar x := ne_of_isPlainAscii foreign plain
  have noMark : punctuation? c = none := by
    simp only [punctuation?, ne (x := '\x7b') (by decide), ne (x := '\x7d') (by decide),
      ne (x := '[') (by decide), ne (x := ']') (by decide), ne (x := ':') (by decide),
      ne (x := ',') (by decide), ↓reduceIte]
  have noWord : word? (c :: rest) = none := by
    rw [word?, Option.map_eq_none_iff, List.find?_eq_none]
    intro entry member starts
    obtain ⟨first, second, others, spelled, plain, -⟩ := isPlainAscii_of_mem_words entry member
    rw [spelled, List.isPrefixOf_iff_prefix, List.cons_prefix_cons] at starts
    exact ne_of_isPlainAscii foreign plain starts.1.symm
  have noNumeral : numeral? (c :: rest) = none := by
    have noDigit : c.isAsciiDigit = false := by
      simp only [CodePoint.isPlainAscii, CodePoint.isAsciiDigit, Bool.and_eq_false_iff,
        decide_eq_false_iff_not] at foreign ⊢
      omega
    simp only [numeral?, ne (x := '-') (by decide), noDigit, Bool.false_eq_true, ↓reduceIte]
  simp only [token, noMark, noWord, noNumeral, ne (x := '"') (by decide), ↓reduceIte]

theorem isPlainAscii_of_null (zero : null.val = 0) : null.isPlainAscii = false := by
  simp [CodePoint.isPlainAscii, zero]

theorem word?_of_null
    (zero : null.val = 0)
    (c : CodePoint) (rest : Text) :
    word? (c :: null :: rest) = none := by
  rw [word?, Option.map_eq_none_iff, List.find?_eq_none]
  intro entry member starts
  obtain ⟨first, second, others, spelled, -, plain⟩ := isPlainAscii_of_mem_words entry member
  rw [spelled, List.isPrefixOf_iff_prefix, List.cons_prefix_cons, List.cons_prefix_cons] at starts
  exact ne_of_isPlainAscii (isPlainAscii_of_null zero) plain starts.2.1.symm

/-- A number with a null character behind its first code point is one digit. -/
theorem eq_digit_of_numeral?_null
    {n : Numeral} {after : Text}
    (zero : null.val = 0)
    (read : numeral? (c :: null :: rest) = some (n, after)) :
    n = ⟨false, [c], none, none⟩ := by
  have ne {x : Char} (plain : (CodePoint.ofChar x).isPlainAscii = true) :
      null ≠ CodePoint.ofChar x := ne_of_isPlainAscii (isPlainAscii_of_null zero) plain
  have noDigit : null.isAsciiDigit = false := by simp [CodePoint.isAsciiDigit, zero]
  have noRun : digitRun (null :: rest) = ([], null :: rest) := by
    simp [digitRun, List.span_eq_takeWhile_dropWhile, noDigit]
  have noFraction : fraction? (null :: rest) = (none, null :: rest) := by
    simp only [fraction?, ne (x := '.') (by decide), ↓reduceIte]
  have noExponent : exponent? (null :: rest) = (none, null :: rest) := by
    simp only [exponent?, ne (x := 'e') (by decide), ne (x := 'E') (by decide), or_self, ↓reduceIte]
  by_cases minus : c = CodePoint.ofChar '-'
  · simp [numeral?, minus, noDigit] at read
  · simp only [numeral?, minus, ↓reduceIte, noRun, noFraction, noExponent, ite_self] at read
    split_ifs at read
    cases read
    rfl

/-- What starts with a null character behind its first code point is a token of one code point, if it
is a token at all. -/
theorem token_of_null
    (zero : null.val = 0)
    (found : token fuel offset c (null :: rest) = (tok, used)) :
    tok.IsFault ∨ used = 1 ∧ ∀ n, tok = .numeral n → n.whole.length = 1 := by
  have foreign := isPlainAscii_of_null zero
  unfold token at found
  split at found
  · rename_i mark isMark
    cases found
    refine Or.inr ⟨rfl, ?_⟩
    rintro n rfl
    simp only [punctuation?] at isMark
    grind
  · split at found
    · have noQuote : null ≠ CodePoint.ofChar '"' := ne_of_isPlainAscii foreign (by decide)
      have control : null.val < 0x20 := by omega
      simp only [scanText, textStep, noQuote, control, ↓reduceIte] at found
      cases found
      exact Or.inl trivial
    · rw [word?_of_null zero] at found
      dsimp only at found
      split at found
      · rename_i n after read
        cases found
        rw [eq_digit_of_numeral?_null zero read]
        exact Or.inr ⟨rfl, fun m same => by cases same; rfl⟩
      · cases found
        exact Or.inl trivial

/-- The first token of a text, and behind it those of the rest, unless it is a fault. -/
theorem tokensFrom_of_token
    (noSpace : isSpace c = false)
    (first : token fuel offset c rest = (tok, used)) :
    ∃ after, tokensFrom (fuel + 1) offset (c :: rest) = (offset, tok) :: after ∧
      (¬ tok.IsFault → after = tokensFrom fuel (offset + used) ((c :: rest).drop used)) := by
  rw [tokensFrom, noSpace, first]
  cases tok with
  | brokenText error =>
      exact ⟨[], rfl, fun sound => absurd trivial sound⟩
  | _ =>
      exact ⟨_, rfl, fun _ => rfl⟩

theorem tokensFrom_of_foreign
    (foreign : c.isPlainAscii = false)
    (fuel offset : Nat) (rest : Text) :
    ∃ after, tokensFrom (fuel + 1) offset (c :: rest) = (offset, .stray) :: after := by
  have noSpace : isSpace c = false := by
    simp only [CodePoint.isPlainAscii, isSpace, Bool.and_eq_false_iff, Bool.or_eq_false_iff,
      decide_eq_false_iff_not] at foreign ⊢
    omega
  have first : token fuel offset c rest = (.stray, 1) := token_of_foreign foreign
  obtain ⟨after, spelled, -⟩ := tokensFrom_of_token noSpace first
  exact ⟨after, spelled⟩

end Tokens

/-! ## Starts of documents -/

section Starts

variable {t : Text} {before after : List (Nat × Token)} {offset : Nat} {tok : Token}
  {state : State}

/-- A text that is not refused for a fault has no token that is one where the reader comes to it. -/
theorem not_isFault_of_read
    (accepted : ∀ error, read t ≠ .error (.syntaxError error))
    (located : tokens t = before ++ (offset, tok) :: after)
    (run : before.foldlM step (.value [] false) = .ok state) :
    ¬ tok.IsFault := by
  intro isFault
  obtain ⟨error, refused⟩ := exists_fault_of_step isFault state offset
  refine accepted error ?_
  rw [read, located, List.foldlM_append, run, ok_bind, List.foldlM_cons, refused]
  rfl

theorem not_isFault_of_read_first
    (accepted : ∀ error, read t ≠ .error (.syntaxError error))
    (located : tokens t = (offset, tok) :: after) :
    ¬ tok.IsFault :=
  @not_isFault_of_read t [] after offset tok _ accepted located rfl

/-- The first token of a text that is not refused for a fault is taken, if it is no long number. -/
theorem exists_step_of_read
    (accepted : ∀ error, read t ≠ .error (.syntaxError error))
    (located : tokens t = (offset, tok) :: after)
    (short : ∀ n, tok = .numeral n → n.whole.length = 1) :
    ∃ state, [(offset, tok)].foldlM step (.value [] false) = .ok state := by
  cases first : step (.value [] false) (offset, tok) with
  | ok state =>
      exact ⟨state, by rw [List.foldlM_cons, first]; rfl⟩
  | error failure =>
      rcases step_eq_error first with ⟨error, rfl⟩ | ⟨-, -, full⟩ | ⟨n, rfl, unconverted⟩
      · refine absurd ?_ (accepted error)
        rw [read, located, List.foldlM_cons, first]
        rfl
      · exact absurd full (by decide)
      · obtain ⟨-, -, long, -⟩ := numeralValue_eq_error unconverted
        rw [short n rfl] at long
        exact absurd long (by decide)

theorem isPlainAscii_of_read
    {c : CodePoint} {rest : Text}
    (accepted : ∀ error, read (c :: rest) ≠ .error (.syntaxError error)) :
    c.isPlainAscii = true := by
  by_contra foreign
  obtain ⟨after, located⟩ :=
    tokensFrom_of_foreign (eq_false_of_ne_true foreign) (rest.length + 1) 0 rest
  exact not_isFault_of_read_first accepted located trivial

/-- The null character is a fault behind a space and behind every token of one code point. -/
theorem second_ne_null_of_read
    {c d : CodePoint} {rest : Text}
    (accepted : ∀ error, read (c :: d :: rest) ≠ .error (.syntaxError error)) :
    d.val ≠ 0 := by
  intro zero
  obtain ⟨after, behind⟩ :=
    tokensFrom_of_foreign (isPlainAscii_of_null zero) (rest.length + 1) 1 rest
  -- Behind a space the null character is the first token, and behind a token it is the second.
  by_cases space : isSpace c = true
  · have located : tokens (c :: d :: rest) = (1, .stray) :: after := by
      rw [tokens, tokensFrom, if_pos space]
      exact behind
    exact not_isFault_of_read_first accepted located trivial
  · cases first : token (rest.length + 2) 0 c (d :: rest) with
    | mk tok used =>
        obtain ⟨further, located, others⟩ :=
          tokensFrom_of_token (eq_false_of_ne_true space) first
        rcases token_of_null zero first with isFault | ⟨rfl, short⟩
        · exact not_isFault_of_read_first accepted located isFault
        · obtain ⟨state, run⟩ := exists_step_of_read accepted located short
          have sound := not_isFault_of_read_first accepted located
          have both : tokens (c :: d :: rest) = [(0, tok)] ++ (1, .stray) :: after := by
            rw [← behind]
            exact (others sound ▸ located)
          exact not_isFault_of_read accepted both run trivial

/-- A text that is not refused for a fault starts like a document. -/
theorem isDetectable_of_read
    (accepted : ∀ error, read t ≠ .error (.syntaxError error)) :
    IsDetectable t := by
  cases t with
  | nil =>
      exact absurd rfl (accepted ⟨.expectedValue, 0⟩)
  | cons c rest =>
      refine ⟨c, rest, rfl, isPlainAscii_of_read accepted, fun d second => ?_⟩
      obtain ⟨others, rfl⟩ := List.head?_eq_some_iff.mp second
      exact second_ne_null_of_read accepted

end Starts

/-! ## Encodings that are detected -/

namespace Encoding

/-- The octet is not null, and no byte order mark starts with it. -/
def IsPlainOctet (a : UInt8) : Prop := a ≠ 0x00 ∧ a ≠ 0xEF ∧ a ≠ 0xFE ∧ a ≠ 0xFF

/-- There are no octets, or they start with a unit that is not null. -/
def StartsWithUnit (octets : Bytes) : Prop :=
  octets = [] ∨ ∃ a b rest, octets = a :: b :: rest ∧ ¬ (a = 0 ∧ b = 0)

section Octets

variable {a b : UInt8} {rest : Bytes}

theorem detect_of_isPlainOctet
    (plain : IsPlainOctet a)
    (rest : Bytes) :
    detect (a :: rest) = detectUnmarked (a :: rest) := by
  obtain ⟨nonzero, noMark8, noMarkBig, noMarkLittle⟩ := plain
  simp [detect, List.isPrefixOf, nonzero.symm, noMark8.symm, noMarkBig.symm, noMarkLittle.symm]

theorem detect_utf8
    (plain : IsPlainOctet a)
    (second : ∀ b ∈ rest.head?, b ≠ 0) :
    detect (a :: rest) = utf8 := by
  rw [detect_of_isPlainOctet plain]
  match rest with
  | [] => rfl
  | [b] => simp [detectUnmarked, plain.1, second b rfl]
  | [b, c] => rfl
  | b :: c :: d :: rest => simp [detectUnmarked, plain.1, second b rfl]

theorem detect_utf16_bigEndian
    (plain : IsPlainOctet a)
    (second : StartsWithUnit rest) :
    detect (0 :: a :: rest) = utf16 .bigEndian := by
  have unmarked : detect (0 :: a :: rest) = detectUnmarked (0 :: a :: rest) := by
    simp [detect, List.isPrefixOf, plain.1.symm]
  rw [unmarked]
  rcases second with rfl | ⟨b, c, more, rfl, -⟩ <;>
    simp [detectUnmarked, plain.1]

theorem detect_utf16_littleEndian
    (plain : IsPlainOctet a)
    (second : StartsWithUnit rest) :
    detect (a :: 0 :: rest) = utf16 .littleEndian := by
  rw [detect_of_isPlainOctet plain]
  rcases second with rfl | ⟨b, c, more, rfl, unit⟩
  · simp [detectUnmarked, plain.1]
  · simp only [detectUnmarked, plain.1, unit, ↓reduceIte]

theorem detect_utf16WithMark_littleEndian
    (plain : IsPlainOctet a) :
    detect (0xFF :: 0xFE :: a :: rest) = utf16WithMark .littleEndian := by
  simp [detect, List.isPrefixOf, plain.1.symm]

theorem detect_utf32_bigEndian :
    detect (0 :: 0 :: 0 :: a :: rest) = utf32 .bigEndian := by
  simp [detect, detectUnmarked]

theorem detect_utf32_littleEndian
    (plain : IsPlainOctet a) :
    detect (a :: 0 :: 0 :: 0 :: rest) = utf32 .littleEndian := by
  rw [detect_of_isPlainOctet plain]
  simp [detectUnmarked, plain.1]

end Octets

section Texts

variable {c : CodePoint} {t : Text}

theorem octet_ne
    {n : Nat} {a : UInt8}
    (octet : n < 0x100)
    (different : n ≠ a.toNat) :
    UInt8.ofNat n ≠ a := by
  rintro rfl
  exact different (toNat_octet octet).symm

theorem isPlainOctet_ofNat
    (plain : c.isPlainAscii = true) :
    IsPlainOctet (UInt8.ofNat c.val) := by
  obtain ⟨positive, ascii⟩ := CodePoint.isPlainAscii_iff.mp plain
  refine ⟨octet_ne (by omega) ?_, octet_ne (by omega) ?_, octet_ne (by omega) ?_,
    octet_ne (by omega) ?_⟩ <;> simp <;> omega

/-- The first octet of a text in UTF-8 is null only for a null character. -/
theorem head_utf8_ne_zero
    (nonzero : ∀ d ∈ t.head?, d.val ≠ 0) :
    ∀ b ∈ (Utf8.encode t).head?, b ≠ 0 := by
  cases t with
  | nil =>
      simp [Utf8.encode]
  | cons c rest =>
      have own : c.val ≠ 0 := nonzero c rfl
      have inCodeSpace := c.isLt
      intro b first
      rw [Utf8.encode, List.flatMap_cons, Utf8.encodePoint] at first
      have zero : (0 : UInt8).toNat = 0 := rfl
      split_ifs at first <;> obtain rfl := Option.some.inj first <;>
        exact octet_ne (by omega) (by omega)

/-- The first unit of a text in UTF-16 is null only for a null character. -/
theorem startsWithUnit_encode
    (order : ByteOrder)
    (nonzero : ∀ d ∈ t.head?, d.val ≠ 0) :
    StartsWithUnit (Utf16.encode order t) := by
  cases t with
  | nil =>
      exact Or.inl rfl
  | cons c rest =>
      have own : c.val ≠ 0 := nonzero c rfl
      obtain ⟨n, others, units, positive, small⟩ :
          ∃ n others, Utf16.units c = n :: others ∧ n ≠ 0 ∧ n < 0x10000 := by
        have inCodeSpace := c.isLt
        unfold Utf16.units
        split_ifs with one
        · exact ⟨_, _, rfl, own, one⟩
        · exact ⟨_, _, rfl, by omega, by omega⟩
      have zero : (0 : UInt8).toNat = 0 := rfl
      have split : UInt8.ofNat (n / 0x100) ≠ 0 ∨ UInt8.ofNat (n % 0x100) ≠ 0 := by
        by_cases high : n / 0x100 = 0
        · exact Or.inr (octet_ne (by omega) (by omega))
        · exact Or.inl (octet_ne (by omega) (by omega))
      rw [Utf16.encode, List.flatMap_cons, Utf16.encodePoint_eq, units, List.flatMap_cons]
      cases order
      · exact Or.inr ⟨_, _, _, rfl, by tauto⟩
      · exact Or.inr ⟨_, _, _, rfl, by tauto⟩

/-- The encoding of a text that starts like a document is told from its octets. -/
theorem detect_encode
    (detectable : IsDetectable t)
    (encoding : Encoding) :
    detect (encoding.encode t) = encoding := by
  obtain ⟨c, rest, rfl, plain, second⟩ := detectable
  obtain ⟨positive, ascii⟩ := CodePoint.isPlainAscii_iff.mp plain
  have octet := isPlainOctet_ofNat plain
  have noHigh : c.val / 0x100 = 0 := by omega
  have low : c.val % 0x100 = c.val := by omega
  have small : c.val < 0x10000 := by omega
  have noPlane : c.val / 0x10000 = 0 := by omega
  -- The first code point is ASCII: the zeros around its octet tell the encoding.
  cases encoding with
  | utf8 =>
      have written : Utf8.encode (c :: rest) = UInt8.ofNat c.val :: Utf8.encode rest := by
        simp only [Utf8.encode, List.flatMap_cons, Utf8.encodePoint, ascii, ↓reduceIte,
          List.cons_append, List.nil_append]
      rw [encode, written]
      exact detect_utf8 octet (head_utf8_ne_zero second)
  | utf8WithMark =>
      rfl
  | utf16 order =>
      have written : Utf16.encode order (c :: rest) =
          Utf16.encodeUnit order c.val ++ Utf16.encode order rest := by
        simp only [Utf16.encode, List.flatMap_cons, Utf16.encodePoint, small, ↓reduceIte]
      rw [encode, written]
      cases order with
      | bigEndian =>
          rw [Utf16.encodeUnit, noHigh, low]
          exact detect_utf16_bigEndian octet (startsWithUnit_encode _ second)
      | littleEndian =>
          rw [Utf16.encodeUnit, noHigh, low]
          exact detect_utf16_littleEndian octet (startsWithUnit_encode _ second)
  | utf16WithMark order =>
      cases order with
      | bigEndian =>
          rfl
      | littleEndian =>
          have written : Utf16.encode .littleEndian (CodePoint.byteOrderMark :: c :: rest) =
              0xFF :: 0xFE :: UInt8.ofNat c.val ::
                (0 :: Utf16.encode .littleEndian rest) := by
            simp only [Utf16.encode, List.flatMap_cons, Utf16.encodePoint, small, ↓reduceIte,
              Utf16.encodeUnit, noHigh, low]
            rfl
          rw [encode, written]
          exact detect_utf16WithMark_littleEndian octet
  | utf32 order =>
      cases order with
      | bigEndian =>
          have written : Utf32.encode .bigEndian (c :: rest) =
              0 :: 0 :: 0 :: UInt8.ofNat c.val :: Utf32.encode .bigEndian rest := by
            simp only [Utf32.encode, List.flatMap_cons, Utf32.encodePoint, noPlane, noHigh, low]
            rfl
          rw [encode, written]
          exact detect_utf32_bigEndian
      | littleEndian =>
          have written : Utf32.encode .littleEndian (c :: rest) =
              UInt8.ofNat c.val :: 0 :: 0 :: 0 :: Utf32.encode .littleEndian rest := by
            simp only [Utf32.encode, List.flatMap_cons, Utf32.encodePoint, noPlane, noHigh, low]
            rfl
          rw [encode, written]
          exact detect_utf32_littleEndian octet
  | utf32WithMark order =>
      cases order <;> rfl

/-- Octets of a text without surrogates are read as the text in the encoding that they are in. -/
theorem decode_encode
    (scalars : t.hasSurrogate = false)
    (encoding : Encoding) :
    encoding.decode (encoding.encode t) = .ok t := by
  cases encoding with
  | utf8 => exact Utf8.decodeFrom_encode scalars 0
  | utf8WithMark => exact Utf8.decodeFrom_encode scalars 0
  | utf16 order => exact Utf16.decodeFrom_encode scalars 0
  | utf16WithMark order => cases order <;> exact Utf16.decodeFrom_encode scalars 2
  | utf32 order => exact Utf32.decodeFrom_encode t 0
  | utf32WithMark order => cases order <;> exact Utf32.decodeFrom_encode t 4

end Texts
end Encoding
end Json

/-! ## Documents -/

namespace Schema

variable {t : Text}

/-- A text that is not refused as malformed is read, and comes to no fault. -/
theorem value_text_of_ofDocument
    (wellFormed : ∀ error, ofDocument (.text t) ≠ .error (.error (.malformed error))) :
    Json.Document.value (.text t) = (Json.read t).mapError .reading ∧
      ∀ error, Json.read t ≠ .error (.syntaxError error) := by
  have noFault (error : Json.SyntaxError) :
      Json.Document.value (.text t) ≠ .error (.reading (.syntaxError error)) := by
    intro fault
    refine wellFormed error ?_
    rw [ofDocument, fault]
    rfl
  simp only [Json.Document.value, Json.readText] at noFault ⊢
  split_ifs at noFault ⊢ with mark
  · exact absurd rfl (noFault _)
  · refine ⟨rfl, fun error refused => noFault error ?_⟩
    rw [refused, mapError_error]

/-- A document ends in the same way as a text and as the octets of the text in any encoding: with the
same schema or with the same failure. The text has no surrogates, and it is not refused as malformed. -/
theorem ofDocument_octets_eq_text
    (scalars : t.hasSurrogate = false)
    (wellFormed : ∀ error, ofDocument (.text t) ≠ .error (.error (.malformed error)))
    (encoding : Json.Encoding) :
    ofDocument (.octets (encoding.encode t)) = ofDocument (.text t) := by
  obtain ⟨asText, noFault⟩ := value_text_of_ofDocument wellFormed
  have detected := Json.Encoding.detect_encode (Json.isDetectable_of_read noFault) encoding
  have decoded := Json.Encoding.decode_encode scalars encoding
  have asOctets : Json.Document.value (.octets (encoding.encode t)) =
      (Json.read t).mapError .reading := by
    rw [Json.Document.value, detected, decoded]
  rw [ofDocument, ofDocument, asText, asOctets]

/-- A document of one text, whose second code point takes two octets in UTF-8 and whose third one
takes a pair of surrogates in UTF-16. -/
def quotedDocument : Text :=
  [CodePoint.ofChar '"', CodePoint.ofNat 0x100, CodePoint.ofNat 0x1D11E, CodePoint.ofChar '"']

theorem ofDocument_octets_eq_text_quoted :
    quotedDocument.hasSurrogate = false ∧
      ∃ failure, ofDocument (.text quotedDocument) = .error failure ∧
        (∀ error, failure ≠ .error (.malformed error)) ∧
        ofDocument (.octets (Json.Encoding.encode (.utf16 .littleEndian) quotedDocument)) =
          .error failure := by
  have scalars : quotedDocument.hasSurrogate = false := by decide
  have refused : ofDocument (.text quotedDocument) = .error (.error (.invalidKeyword .schema
      (.str [CodePoint.ofNat 0x100, CodePoint.ofNat 0x1D11E]) .object {})) := by
    rfl
  refine ⟨scalars, _, refused, fun error => by simp, ?_⟩
  rw [← refused]
  refine ofDocument_octets_eq_text scalars (fun error malformed => ?_) (.utf16 .littleEndian)
  rw [refused] at malformed
  cases malformed

end Schema
end RecordGen
