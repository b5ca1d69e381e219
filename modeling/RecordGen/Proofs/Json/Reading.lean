import RecordGen.Json.Document
import RecordGen.Proofs.Outcome
import Mathlib.Data.List.TakeDrop

/-!
# What is read

A property that leaves have, and that containers get from what is put into them, holds of every value
that a text or octets are read as. The reader keeps it as an invariant of all containers that are open.
-/

namespace RecordGen.Json

/-- A property that leaves have and that containers get from their parts. -/
structure IsInherited (holds : Value → Prop) : Prop where
  word : ∀ entry ∈ words, holds entry.2
  text : ∀ t, holds (.str t)
  numeral : ∀ {n : Numeral} {value : Value}, n.whole.all CodePoint.isAsciiDigit = true →
    n.value = .ok value → holds value
  array : ∀ {items : List Value}, (∀ item ∈ items, holds item) → holds (.arr items)
  object : holds (.obj [])
  member : ∀ {members : Members} {name : Text} {value : Value},
    holds (.obj members) → holds value → holds (.obj (members.set name value))

variable {holds : Value → Prop}

/-! ## The reader -/

/-- The invariant of an open container. -/
def Frame.Holds (holds : Value → Prop) : Frame → Prop
  | .array items => ∀ item ∈ items, holds item
  | .object members _ => holds (.obj members)

/-- The invariant of the reader: what has been read has the property, in every container that is open
and in the one that is being filled. -/
def State.Holds (holds : Value → Prop) : State → Prop
  | .value stack _ => ∀ frame ∈ stack, frame.Holds holds
  | .name members stack _ => holds (.obj members) ∧ ∀ frame ∈ stack, frame.Holds holds
  | .colon members _ stack => holds (.obj members) ∧ ∀ frame ∈ stack, frame.Holds holds
  | .afterItem items stack => (∀ item ∈ items, holds item) ∧ ∀ frame ∈ stack, frame.Holds holds
  | .afterMember members stack => holds (.obj members) ∧ ∀ frame ∈ stack, frame.Holds holds
  | .done v => holds v

/-- The invariant of a token: a literal word has the property, and a number is decimal. -/
def Token.Holds (holds : Value → Prop) : Token → Prop
  | .word value => holds value
  | .numeral n => n.whole.all CodePoint.isAsciiDigit = true
  | _ => True

theorem holds_deliver
    {value : Value} {stack : List Frame}
    (inherited : IsInherited holds)
    (part : holds value)
    (frames : ∀ frame ∈ stack, frame.Holds holds) :
    (deliver value stack).Holds holds := by
  cases stack with
  | nil =>
      exact part
  | cons frame rest =>
      have outer : ∀ other ∈ rest, other.Holds holds :=
        fun other member => frames other (List.mem_cons_of_mem frame member)
      have inner : frame.Holds holds := frames frame List.mem_cons_self
      cases frame with
      | array items =>
          exact ⟨List.forall_mem_cons.mpr ⟨part, inner⟩, outer⟩
      | object members name =>
          exact ⟨inherited.member inner part, outer⟩

theorem eq_of_opened
    {stack : List Frame} {state next : State}
    (step : opened stack state = .ok next) :
    next = state := by
  unfold opened at step
  split at step
  · cases step
  · cases step
    rfl

/-- One token keeps the invariant. -/
theorem holds_step
    {state next : State} {offset : Nat} {token : Token}
    (inherited : IsInherited holds)
    (kept : state.Holds holds)
    (own : token.Holds holds)
    (stepped : step state (offset, token) = .ok next) :
    next.Holds holds := by
  have emptyArray : (Frame.array []).Holds holds := by simp [Frame.Holds]
  simp only [step] at stepped
  split at stepped
  -- What is left after the refusals are the tokens that fit, in the order of the machine's cases.
  all_goals try (cases stepped; done)
  case h_1 =>
    obtain rfl := eq_of_opened stepped
    exact List.forall_mem_cons.mpr ⟨emptyArray, kept⟩
  case h_2 =>
    obtain rfl := eq_of_opened stepped
    exact ⟨inherited.object, kept⟩
  case h_6 =>
    obtain ⟨value, converted, rfl⟩ := map_eq_ok.mp stepped
    exact holds_deliver inherited (inherited.numeral own converted) kept
  all_goals cases stepped
  case h_3 =>
    exact holds_deliver inherited (inherited.array (by simp)) (List.forall_mem_cons.mp kept).2
  case h_4 => exact holds_deliver inherited (inherited.text _) kept
  case h_7 => exact holds_deliver inherited own kept
  case h_8 => exact kept
  case h_10 => exact holds_deliver inherited inherited.object kept.2
  case h_11 => exact List.forall_mem_cons.mpr kept
  case h_12 => exact List.forall_mem_cons.mpr kept
  case h_13 => exact holds_deliver inherited (inherited.array (by simpa using kept.1)) kept.2
  case h_14 => exact kept
  case h_15 => exact holds_deliver inherited kept.1 kept.2

/-! ## Tokens -/

theorem holds_word?
    {t : Text} {value : Value} {used : Nat}
    (inherited : IsInherited holds)
    (found : word? t = some (value, used)) :
    holds value := by
  obtain ⟨entry, first, same⟩ := Option.map_eq_some_iff.mp found
  cases same
  exact inherited.word entry (List.mem_of_find?_eq_some first)

theorem isAsciiDigit_of_digitRun
    {t digits rest : Text}
    (run : digitRun t = (digits, rest)) :
    digits.all CodePoint.isAsciiDigit = true := by
  rw [digitRun, List.span_eq_takeWhile_dropWhile] at run
  cases run
  exact List.all_takeWhile

theorem isAsciiDigit_of_numeral?
    {t rest : Text} {n : Numeral}
    (found : numeral? t = some (n, rest)) :
    n.whole.all CodePoint.isAsciiDigit = true := by
  unfold numeral? at found
  split at found
  split at found
  · cases found
  · rename_i first others
    split at found
    · rename_i digit
      split at found
      rename_i whole afterWhole wholeRead
      have decimal : whole.all CodePoint.isAsciiDigit = true := by
        split at wholeRead
        · cases wholeRead
          simp [digit]
        · cases wholeRead
          simpa [digit] using isAsciiDigit_of_digitRun rfl
      split at found
      split at found
      cases found
      exact decimal
    · cases found

theorem holds_punctuation?
    {c : CodePoint} {mark : Token}
    (found : punctuation? c = some mark) :
    mark.Holds holds := by
  simp only [punctuation?] at found
  grind [Token.Holds]

theorem holds_scanText
    (start fuel offset : Nat) (read rest : Text) :
    (scanText start fuel offset read rest).1.Holds holds := by
  induction fuel generalizing offset read rest with
  | zero =>
      trivial
  | succ fuel inductionHypothesis =>
      rw [scanText]
      split
      · trivial
      · exact inductionHypothesis _ _ _
      · trivial

theorem holds_token
    (inherited : IsInherited holds)
    (fuel offset : Nat) (c : CodePoint) (rest : Text) :
    (token fuel offset c rest).1.Holds holds := by
  rw [token]
  split
  case h_1 mark found => exact holds_punctuation? found
  case h_2 =>
    split
    · exact holds_scanText offset (fuel + 1) (offset + 1) [] rest
    · split
      · exact holds_word? inherited ‹_›
      · split
        · exact isAsciiDigit_of_numeral? ‹_›
        · trivial

theorem holds_tokensFrom
    (inherited : IsInherited holds)
    (fuel offset : Nat) (t : Text) :
    ∀ located ∈ tokensFrom fuel offset t, located.2.Holds holds := by
  induction fuel generalizing offset t with
  | zero =>
      simp [tokensFrom]
  | succ fuel inductionHypothesis =>
      cases t with
      | nil =>
          simp [tokensFrom]
      | cons c rest =>
          have first := holds_token inherited fuel offset c rest
          rw [tokensFrom]
          split
          · exact inductionHypothesis (offset + 1) rest
          · split
            · simp [Token.Holds]
            · rename_i found
              rw [found] at first
              exact List.forall_mem_cons.mpr ⟨first, inductionHypothesis _ _⟩

/-! ## Documents -/

theorem holds_finish
    {offset : Nat} {last : State} {value : Value}
    (kept : last.Holds holds)
    (finished : finish offset last = .ok value) :
    holds value := by
  cases last with
  | done v =>
      cases finished
      exact kept
  | _ =>
      cases finished

/-- What a text is read as has every property that is inherited from the leaves. -/
theorem holds_read
    {t : Text} {value : Value}
    (inherited : IsInherited holds)
    (done : read t = .ok value) :
    holds value := by
  obtain ⟨last, run, finished⟩ := bind_eq_ok.mp done
  have start : (State.value [] false).Holds holds := by simp [State.Holds]
  have kept : last.Holds holds :=
    foldlM_preserves
      (fun located member _ _ invariant stepped =>
        holds_step inherited invariant (holds_tokensFrom inherited _ _ t located member) stepped)
      start run
  exact holds_finish kept finished

theorem holds_readText
    {t : Text} {value : Value}
    (inherited : IsInherited holds)
    (done : readText t = .ok value) :
    holds value := by
  unfold readText at done
  split at done
  · cases done
  · exact holds_read inherited done

/-- So has what a document is read as, be it text or octets. -/
theorem holds_of_value
    {document : Document} {value : Value}
    (inherited : IsInherited holds)
    (done : document.value = .ok value) :
    holds value := by
  cases document with
  | text t =>
      exact holds_readText inherited (mapError_eq_ok.mp done)
  | octets bytes =>
      simp only [Document.value] at done
      split at done
      · cases done
      · exact holds_read inherited (mapError_eq_ok.mp done)

end RecordGen.Json
