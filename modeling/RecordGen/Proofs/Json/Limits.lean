import RecordGen.Proofs.Json.Names
import Mathlib.Data.List.TakeDrop

/-!
# Limits of the reader

Two limits stop the reader at a document that has no fault: an integer with too many digits, and
containers that are nested too deeply. A document that is stopped by one of them does pass it: the
digits stand in its text, and its tokens open that many containers. What is read keeps to the limit of
the digits.
-/

namespace RecordGen.Json

/-! ## Nesting -/

/-- How many more containers are open behind a token than before it. -/
def Token.nesting : Token → Int
  | openBrace => 1
  | openBracket => 1
  | closeBrace => -1
  | closeBracket => -1
  | _ => 0

/-- How many containers are open behind some tokens. -/
def nesting : List (Nat × Token) → Int
  | [] => 0
  | (_, token) :: rest => token.nesting + nesting rest

theorem nesting_append (first rest : List (Nat × Token)) :
    nesting (first ++ rest) = nesting first + nesting rest := by
  induction first with
  | nil =>
      simp [nesting]
  | cons entry first inductionHypothesis =>
      simp only [List.cons_append, nesting, inductionHypothesis]
      omega

/-- How many containers the reader has open. -/
def State.depth : State → Nat
  | value stack _ => stack.length
  | name _ stack _ => stack.length + 1
  | colon _ _ stack => stack.length + 1
  | afterItem _ stack => stack.length + 1
  | afterMember _ stack => stack.length + 1
  | done _ => 0

theorem depth_deliver (value : Value) (stack : List Frame) :
    (deliver value stack).depth = stack.length := by
  cases stack with
  | nil => rfl
  | cons frame rest => cases frame <;> rfl

/-- One token opens and closes as many containers as it says. -/
theorem depth_step
    {state next : State} {offset : Nat} {token : Token}
    (stepped : step state (offset, token) = .ok next) :
    (next.depth : Int) = state.depth + token.nesting := by
  simp only [step] at stepped
  split at stepped
  all_goals try (cases stepped; done)
  case h_1 =>
    obtain rfl := eq_of_opened stepped
    simp [State.depth, Token.nesting]
  case h_2 =>
    obtain rfl := eq_of_opened stepped
    simp [State.depth, Token.nesting]
  case' h_6 => obtain ⟨value, -, rfl⟩ := map_eq_ok.mp stepped
  case' h_3 | h_4 | h_7 | h_8 | h_10 | h_11 | h_12 | h_13 | h_14 | h_15 => cases stepped
  case' h_3 | h_4 | h_6 | h_7 | h_10 | h_13 | h_15 => rw [depth_deliver]
  all_goals
    simp only [State.depth, Token.nesting, List.length_cons]
    omega

/-- The reader has open what the tokens it has taken leave open. -/
theorem depth_run
    {located : List (Nat × Token)} :
    ∀ {state last : State}, located.foldlM step state = .ok last →
      (last.depth : Int) = state.depth + nesting located := by
  induction located with
  | nil =>
      intro state last run
      cases run
      simp [nesting]
  | cons entry rest inductionHypothesis =>
      intro state last run
      rw [List.foldlM_cons, bind_eq_ok] at run
      obtain ⟨next, first, others⟩ := run
      rw [inductionHypothesis others, depth_step first]
      simp only [nesting]
      omega

/-! ## Tokens that pass a limit -/

section Steps

variable {state : State} {offset : Nat} {token : Token} {failure : ReadFailure}

theorem opened_eq_error
    {stack : List Frame}
    (step : opened stack state = .error failure) :
    depthLimit ≤ stack.length ∧ failure = .tooDeep := by
  unfold opened at step
  split at step <;> cases step
  exact ⟨‹_›, rfl⟩

theorem numeralValue_eq_error
    {n : Numeral}
    (refused : n.value = .error failure) :
    n.fraction = none ∧ n.exponent = none ∧ digitLimit < n.whole.length ∧
      failure = .tooManyDigits n.whole.length := by
  unfold Numeral.value at refused
  split at refused
  · split at refused <;> cases refused
    exact ⟨‹_›, ‹_›, ‹_›, rfl⟩
  · cases refused

/-- A token that does not fit is a fault of the text, unless it opens a container where no more may be
open or is an integer with too many digits. -/
theorem step_eq_error
    (stepped : step state (offset, token) = .error failure) :
    (∃ error, failure = .syntaxError error) ∨
      (failure = .tooDeep ∧ token.nesting = 1 ∧ depthLimit ≤ state.depth) ∨
        ∃ n, token = .numeral n ∧ n.value = .error failure := by
  simp only [step] at stepped
  split at stepped
  all_goals try (cases stepped; exact Or.inl ⟨_, rfl⟩)
  all_goals try cases stepped
  case h_1 =>
    obtain ⟨full, rfl⟩ := opened_eq_error stepped
    exact Or.inr (Or.inl ⟨rfl, rfl, full⟩)
  case h_2 =>
    obtain ⟨full, rfl⟩ := opened_eq_error stepped
    exact Or.inr (Or.inl ⟨rfl, rfl, full⟩)
  case h_6 =>
    exact Or.inr (Or.inr ⟨_, rfl, map_eq_error.mp stepped⟩)

end Steps

/-! ## Numbers in a text -/

section Numbers

variable {t rest digits : Text}

theorem eq_append_of_digitRun
    (run : digitRun t = (digits, rest)) :
    t = digits ++ rest := by
  rw [digitRun, List.span_eq_takeWhile_dropWhile] at run
  cases run
  exact List.takeWhile_append_dropWhile.symm

def fractionText : Option Text → Text
  | none => []
  | some digits => CodePoint.ofChar '.' :: digits

/-- The spelling of what follows a fraction. -/
def exponentText : Option Exponent → Text
  | none => []
  | some exponent => exponent.text

theorem text_eq (n : Numeral) :
    n.text = (if n.negative then Text.ofChar '-' else []) ++ n.whole ++ fractionText n.fraction ++
      exponentText n.exponent := by
  obtain ⟨negative, whole, fraction, exponent⟩ := n
  cases fraction <;> cases exponent <;> rfl

theorem eq_append_of_fraction?
    {fraction : Option Text}
    (found : fraction? t = (fraction, rest)) :
    t = fractionText fraction ++ rest := by
  unfold fraction? at found
  split at found
  · split at found
    · rename_i point others isPoint
      split at found
      · cases found
        rfl
      · rename_i run
        cases found
        rw [eq_append_of_digitRun run, isPoint]
        rfl
    · cases found
      rfl
  · cases found
    rfl

theorem eq_append_of_exponent?
    {exponent : Option Exponent}
    (found : exponent? t = (exponent, rest)) :
    t = exponentText exponent ++ rest := by
  unfold exponent? at found
  split at found
  · split at found
    · rename_i mark others isMark
      split at found
      rename_i sign unsigned signed
      have others_eq : others = sign.toList ++ unsigned := by
        split at signed
        · split at signed <;> cases signed <;> rfl
        · cases signed
          rfl
      split at found
      · cases found
        rfl
      · rename_i run
        cases found
        rw [others_eq, eq_append_of_digitRun run]
        simp [exponentText, Exponent.text]
    · cases found
      rfl
  · cases found
    rfl

/-- A number that is read is spelled at the start of the text, and its whole part is decimal. -/
theorem eq_append_of_numeral?
    {n : Numeral}
    (found : numeral? t = some (n, rest)) :
    t = n.text ++ rest := by
  unfold numeral? at found
  split at found
  rename_i negative unsigned signed
  -- The parts of a numeral are cut off one after the other, so they are put back in that order.
  have t_eq : t = (if negative then Text.ofChar '-' else []) ++ unsigned := by
    split at signed
    · split at signed
      · rename_i isSign
        cases signed
        simp [Text.ofChar, isSign]
      · cases signed
        rfl
    · cases signed
      rfl
  split at found
  · cases found
  · rename_i first others
    split at found
    · split at found
      rename_i whole afterWhole wholeRead
      have unsigned_eq : first :: others = whole ++ afterWhole := by
        split at wholeRead
        · cases wholeRead
          rfl
        · cases wholeRead
          exact congrArg (first :: ·) (eq_append_of_digitRun rfl)
      split at found
      rename_i fraction afterFraction fractionRead
      split at found
      rename_i exponent afterExponent exponentRead
      cases found
      rw [t_eq, unsigned_eq, eq_append_of_fraction? fractionRead,
        eq_append_of_exponent? exponentRead, text_eq]
      simp only [List.append_assoc]
    · cases found

end Numbers

theorem scanText_ne_numeral
    (start fuel offset : Nat) (read rest : Text) (n : Numeral) :
    (scanText start fuel offset read rest).1 ≠ .numeral n := by
  induction fuel generalizing offset read rest with
  | zero =>
      simp [scanText]
  | succ fuel inductionHypothesis =>
      rw [scanText]
      split
      · simp
      · exact inductionHypothesis _ _ _
      · simp

theorem numeral?_of_token
    {fuel offset used : Nat} {c : CodePoint} {rest : Text} {n : Numeral}
    (found : token fuel offset c rest = (.numeral n, used)) :
    ∃ after, numeral? (c :: rest) = some (n, after) := by
  unfold token at found
  split at found
  · rename_i isMark
    cases found
    simp only [punctuation?] at isMark
    grind
  · split at found
    · have isNumeral := congrArg Prod.fst found
      exact absurd isNumeral (scanText_ne_numeral offset (fuel + 1) (offset + 1) [] rest n)
    · split at found
      · cases found
      · split at found
        · rename_i after read
          cases found
          exact ⟨after, read⟩
        · cases found

/-- A number among the tokens of a text is spelled in the text. -/
theorem exists_append_of_mem_tokensFrom
    {n : Numeral} {place : Nat} :
    ∀ {fuel offset : Nat} {t : Text}, (place, .numeral n) ∈ tokensFrom fuel offset t →
      ∃ before after, t = before ++ n.text ++ after := by
  intro fuel
  induction fuel with
  | zero =>
      intro offset t member
      cases member
  | succ fuel inductionHypothesis =>
      intro offset t member
      cases t with
      | nil =>
          cases member
      | cons c rest =>
          rw [tokensFrom] at member
          split at member
          · obtain ⟨before, after, rfl⟩ := inductionHypothesis member
            exact ⟨c :: before, after, rfl⟩
          · split at member
            · simp at member
            · rename_i used _ read
              rcases List.mem_cons.mp member with first | later
              · cases first
                obtain ⟨after, found⟩ := numeral?_of_token read
                exact ⟨[], after, eq_append_of_numeral? found⟩
              · obtain ⟨before, after, split⟩ := inductionHypothesis later
                refine ⟨(c :: rest).take used ++ before, after, ?_⟩
                rw [List.append_assoc, List.append_assoc, ← List.append_assoc before, ← split,
                  List.take_append_drop]

/-! ## Documents that pass a limit -/

/-- The text spells an integer of so many digits. -/
def SpellsInteger (t : Text) (count : Nat) : Prop :=
  ∃ n : Numeral, n.fraction = none ∧ n.exponent = none ∧ n.whole.length = count ∧
    (∃ place, (place, .numeral n) ∈ tokens t) ∧ ∃ before after, t = before ++ n.text ++ after

/-- Somewhere in the text more containers are open than may be. -/
def NestsTooDeeply (t : Text) : Prop :=
  ∃ before after, tokens t = before ++ after ∧ depthLimit < nesting before

theorem nesting_le_length (located : List (Nat × Token)) : nesting located ≤ located.length := by
  induction located with
  | nil =>
      exact Int.le_refl 0
  | cons entry rest inductionHypothesis =>
      have one : entry.2.nesting ≤ 1 := by cases entry.2 <;> simp [Token.nesting]
      rw [nesting, List.length_cons]
      omega

/-- A text of few tokens does not nest too deeply. -/
theorem not_nestsTooDeeply_of_length
    {t : Text}
    (few : (tokens t).length ≤ depthLimit) :
    ¬ NestsTooDeeply t := by
  rintro ⟨before, after, split, deep⟩
  have bound := nesting_le_length before
  have total := congrArg List.length split
  rw [List.length_append] at total
  omega

/-- A text is read unless it has a fault, spells an integer that is too long or nests too deeply. -/
theorem read_eq_error
    {t : Text} {failure : ReadFailure}
    (failed : read t = .error failure) :
    (∃ error, failure = .syntaxError error) ∨ (failure = .tooDeep ∧ NestsTooDeeply t) ∨
      ∃ count, failure = .tooManyDigits count ∧ digitLimit < count ∧ SpellsInteger t count := by
  rcases bind_eq_error.mp failed with stopped | ⟨last, -, unfinished⟩
  · obtain ⟨before, ⟨offset, token⟩, after, middle, split, run, refused⟩ :=
      exists_step_eq_error stopped
    have member : (offset, token) ∈ tokens t := by simp [split]
    rcases step_eq_error refused with fault | ⟨rfl, opens, full⟩ | ⟨n, rfl, unconverted⟩
    · exact Or.inl fault
    · refine Or.inr (Or.inl ⟨rfl, before ++ [(offset, token)], after, by simp [split], ?_⟩)
      have open_before : (middle.depth : Int) = nesting before := by
        simpa [State.depth] using depth_run run
      have one_more : nesting (before ++ [(offset, token)]) = nesting before + 1 := by
        simp [nesting_append, nesting, opens]
      omega
    · obtain ⟨noFraction, noExponent, long, rfl⟩ := numeralValue_eq_error unconverted
      refine Or.inr (Or.inr ⟨_, rfl, long, n, noFraction, noExponent, rfl, ⟨offset, member⟩, ?_⟩)
      exact exists_append_of_mem_tokensFrom member
  · cases last <;> cases unfinished <;> exact Or.inl ⟨_, rfl⟩

/-! ## Integers that are read -/

namespace Value

theorem itemsAreSpellable_iff {items : List Value} :
    itemsAreSpellable items = true ↔ ∀ item ∈ items, item.isSpellable = true := by
  induction items with
  | nil =>
      simp [itemsAreSpellable]
  | cons item rest inductionHypothesis =>
      rw [itemsAreSpellable, Bool.and_eq_true, inductionHypothesis, List.forall_mem_cons]

theorem membersAreSpellable_iff {members : Members} :
    membersAreSpellable members = true ↔ ∀ member ∈ members, member.2.isSpellable = true := by
  induction members with
  | nil =>
      simp [membersAreSpellable]
  | cons member rest inductionHypothesis =>
      rw [membersAreSpellable, Bool.and_eq_true, inductionHypothesis, List.forall_mem_cons]

theorem isSpellable_obj_iff {members : Members} :
    (obj members).isSpellable = true ↔ ∀ member ∈ members, member.2.isSpellable = true := by
  rw [isSpellable, membersAreSpellable_iff]

end Value

theorem foldl_digits_lt
    {digits : Text}
    (decimal : digits.all CodePoint.isAsciiDigit = true)
    (n : Nat) :
    digits.foldl (fun n c => n * 10 + (c.val - 0x30)) n < (n + 1) * Nat.pow 10 digits.length := by
  induction digits generalizing n with
  | nil =>
      simp
  | cons c rest inductionHypothesis =>
      rw [List.all_cons, Bool.and_eq_true] at decimal
      have digit : c.val - 0x30 ≤ 9 := by
        have range := decimal.1
        simp only [CodePoint.isAsciiDigit, Bool.and_eq_true, decide_eq_true_eq] at range
        omega
      calc
        rest.foldl (fun n c => n * 10 + (c.val - 0x30)) (n * 10 + (c.val - 0x30))
            < (n * 10 + (c.val - 0x30) + 1) * Nat.pow 10 rest.length := inductionHypothesis decimal.2 _
        _ ≤ ((n + 1) * 10) * Nat.pow 10 rest.length := Nat.mul_le_mul_right _ (by omega)
        _ = (n + 1) * Nat.pow 10 (rest.length + 1) := by
            rw [Nat.mul_assoc, Nat.mul_comm 10]
            rfl

theorem digitsValue_lt
    {digits : Text} {limit : Nat}
    (decimal : digits.all CodePoint.isAsciiDigit = true)
    (short : digits.length ≤ limit) :
    digitsValue digits < Nat.pow 10 limit := by
  have bound := foldl_digits_lt decimal 0
  rw [Nat.zero_add, Nat.one_mul] at bound
  exact Nat.lt_of_lt_of_le bound (Nat.pow_le_pow_right (by decide) short)

theorem isSpellable_numeral
    {n : Numeral} {value : Value}
    (decimal : n.whole.all CodePoint.isAsciiDigit = true)
    (converted : n.value = .ok value) :
    value.isSpellable = true := by
  unfold Numeral.value at converted
  split at converted
  · split at converted <;> cases converted
    rename_i short
    have small : digitsValue n.whole < Nat.pow 10 digitLimit :=
      digitsValue_lt decimal (Nat.le_of_not_lt short)
    rw [Value.isSpellable, decide_eq_true_eq]
    split
    · rwa [Int.natAbs_neg, Int.natAbs_natCast]
    · rwa [Int.natAbs_natCast]
  · cases converted
    rfl

theorem isInherited_isSpellable : IsInherited fun value => value.isSpellable = true where
  word := by simp [words, Value.isSpellable]
  text _ := rfl
  numeral := isSpellable_numeral
  array items := Value.itemsAreSpellable_iff.mpr items
  object := rfl
  member := by
    intro members name value whole part
    rw [Value.isSpellable_obj_iff] at whole ⊢
    intro member present
    rcases Members.mem_set present with rfl | old
    · exact part
    · exact whole member old

/-- Every integer that is read from a text can be spelled again. -/
theorem isSpellable_of_readText
    {t : Text} {value : Value}
    (done : readText t = .ok value) :
    value.isSpellable = true :=
  holds_readText isInherited_isSpellable done

end RecordGen.Json
