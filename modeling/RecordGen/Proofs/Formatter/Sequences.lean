import RecordGen.Proofs.Formatter.Outcomes
import Mathlib.Data.List.Forall2
import Mathlib.Tactic.SplitIfs

/-!
# Sequences of requests to the external formatter

An external formatter answers any sequence of questions for its command and of texts to format, whatever
the command does. It asks for the command until it gets an answer, and nothing is formatted before a good
one. A text that is returned is what the command has printed for the code, and an error is the
generator's own, unless a call breaks off, the command vanishes between the question and the call that
formats, or the request has words or code that cannot be passed on.
-/

namespace RecordGen.Formatter

/-! ## Requests -/

/-- What an external formatter is asked for. -/
inductive Request where
  | availability
  | formatting (code : Text) (s : FormatterSettings)
deriving Repr

inductive Answer where
  | availability (answer : Attempt Bool)
  | formatting (answer : Attempt Text)

namespace Tool

def serve (environment : Environment) (executable : Text) (request : Request) (tool : Tool) :
    Answer × Tool :=
  match request with
  | .availability => (tool.isAvailable environment executable).map .availability id
  | .formatting code s => (tool.format environment executable code s).map .formatting id

/-- Answers requests one after another. -/
def serveAll (environment : Environment) (executable : Text) :
    List Request → Tool → List Answer × Tool
  | [], tool => ([], tool)
  | request :: rest, tool =>
    let (answer, tool) := tool.serve environment executable request
    let (answers, tool) := serveAll environment executable rest tool
    (answer :: answers, tool)

/-! ## Histories -/

/-- The first questions for the command all break off. -/
def IsUnanswered (environment : Environment) (executable : Text) (count : Nat) : Prop :=
  ∀ n < count, ∃ fault,
    environment (List.replicate n (probe executable)) (probe executable) = .broken fault

/-- A call that formats code which passes the check. -/
def IsFormatting (executable : Text) (c : Call) : Prop :=
  ∃ code s, c = formatCall executable code s ∧ Source.check code = .ok ()

/-- The calls behind an answered question for the command: only code is formatted, and only if the
command is there. -/
structure IsTrace (executable : Text) (found : Bool) (formats : List Call) : Prop where
  found : formats ≠ [] → found = true
  formatting : ∀ c ∈ formats, IsFormatting executable c

/-- What an external formatter knows, and the calls that it has made: questions that broke off, or behind
them one that was answered, and calls that format. -/
inductive IsHistory (environment : Environment) (executable : Text) : Option Bool → List Call → Prop
  | asking {count : Nat} :
      IsUnanswered environment executable count →
        IsHistory environment executable none (List.replicate count (probe executable))
  | answered {count : Nat} {formats : List Call} {outcome : Outcome} :
      IsUnanswered environment executable count →
        environment (List.replicate count (probe executable)) (probe executable) = outcome →
          (∀ fault, outcome ≠ .broken fault) → IsTrace executable outcome.isSuccess formats →
            IsHistory environment executable (some outcome.isSuccess)
              (List.replicate count (probe executable) ++ probe executable :: formats)

/-- The answer to a question for the command, given the calls that are made in the end: whether one of
them has found it, or what one of them broke off with. -/
inductive Answers (environment : Environment) (executable : Text) (calls : List Call) :
    Attempt Bool → Prop
  | answered {earlier : List Call} {outcome : Outcome} :
      earlier ++ [probe executable] <+: calls →
        environment earlier (probe executable) = outcome → (∀ fault, outcome ≠ .broken fault) →
          Answers environment executable calls (.ok outcome.isSuccess)
  | brokenOff {earlier : List Call} {fault : CallFault} :
      earlier ++ [probe executable] <+: calls →
        environment earlier (probe executable) = .broken fault →
          Answers environment executable calls (.error (fault.failure executable))

/-- Why a call that formats code has not succeeded: it has exited with another status, or it has taken
too long or failed. -/
inductive IsReason (c : Call) : Outcome → Text → Prop
  | status {status : Int} {output errors : Text} :
      status ≠ 0 → IsReason c (.exited status output errors) (statusReason status errors)
  | timeout : IsReason c .timedOut (timeoutReason c)
  | failure {reason : Text} : IsReason c (.failed reason) reason

/-- How a request is settled, given the calls that are made in the end. A text is settled by the output of
a call that was given the code and exited with 0, or by an error of the generator. Only five things
raise another failure: a question that breaks off, code that is refused for a point that is not written,
a line length that is not spelled, and a command that vanishes or breaks off in the call that formats. -/
inductive Settles (environment : Environment) (executable : Text) (calls : List Call) :
    Request → Answer → Prop
  | availability {answer : Attempt Bool} :
      Answers environment executable calls answer →
        Settles environment executable calls .availability (.availability answer)
  | output {code text errors : Text} {s : FormatterSettings} {earlier : List Call} :
      earlier ++ [formatCall executable code s] <+: calls →
        environment earlier (formatCall executable code s) = .exited 0 text errors →
          Settles environment executable calls (.formatting code s) (.formatting (.ok text))
  | notInstalled {code : Text} {s : FormatterSettings} :
      Answers environment executable calls (.ok false) →
        Settles environment executable calls (.formatting code s)
          (.formatting (.error (.generator (.formatting .ruff (.notInstalled executable)))))
  | invalidSyntax {code : Text} {s : FormatterSettings} :
      Source.check code = .error .invalidSyntax →
        Settles environment executable calls (.formatting code s)
          (.formatting (.error (.generator (.formatting .ruff .invalidSyntax))))
  | commandFailed {code reason : Text} {s : FormatterSettings} {earlier : List Call} :
      earlier ++ [formatCall executable code s] <+: calls →
        IsReason (formatCall executable code s)
            (environment earlier (formatCall executable code s)) reason →
          Settles environment executable calls (.formatting code s)
            (.formatting (.error (.generator (.formatting .ruff (.commandFailed reason)))))
  | unanswered {code : Text} {s : FormatterSettings} {failure : Failure} :
      Answers environment executable calls (.error failure) →
        Settles environment executable calls (.formatting code s) (.formatting (.error failure))
  | unwritten {code : Text} {s : FormatterSettings} {fault : Source.Fault} :
      Source.check code = .error fault → fault ≠ .invalidSyntax →
        Settles environment executable calls (.formatting code s)
          (.formatting (.error (sourceFailure .ruff fault)))
  | unspelled {code : Text} {s : FormatterSettings} :
      spellsLength s = false →
        Settles environment executable calls (.formatting code s)
          (.formatting (.error (.settings .tooManyDigits)))
  | vanished {code : Text} {s : FormatterSettings} {earlier : List Call} :
      earlier ++ [formatCall executable code s] <+: calls →
        environment earlier (formatCall executable code s) = .missing →
          Settles environment executable calls (.formatting code s)
            (.formatting (.error (.system .notFound executable)))
  | brokenOff {code : Text} {s : FormatterSettings} {earlier : List Call} {fault : CallFault} :
      earlier ++ [formatCall executable code s] <+: calls →
        environment earlier (formatCall executable code s) = .broken fault →
          Settles environment executable calls (.formatting code s)
            (.formatting (.error (fault.failure executable)))

variable {environment : Environment} {executable : Text} {tool : Tool} {formats calls later : List Call}
  {request : Request} {answer : Answer} {found : Option Bool}

theorem Answers.mono
    {answer : Attempt Bool}
    (answers : Answers environment executable calls answer)
    (extended : calls <+: later) :
    Answers environment executable later answer := by
  cases answers with
  | answered made outcome unbroken => exact .answered (made.trans extended) outcome unbroken
  | brokenOff made broke => exact .brokenOff (made.trans extended) broke

/-- More calls change nothing about what is settled. -/
theorem Settles.mono
    (settles : Settles environment executable calls request answer)
    (extended : calls <+: later) :
    Settles environment executable later request answer := by
  cases settles with
  | availability answers => exact .availability (answers.mono extended)
  | output made answered => exact .output (made.trans extended) answered
  | notInstalled answers => exact .notInstalled (answers.mono extended)
  | invalidSyntax refused => exact .invalidSyntax refused
  | commandFailed made reason => exact .commandFailed (made.trans extended) reason
  | unanswered answers => exact .unanswered (answers.mono extended)
  | unwritten refused other => exact .unwritten refused other
  | unspelled long => exact .unspelled long
  | vanished made answered => exact .vanished (made.trans extended) answered
  | brokenOff made broke => exact .brokenOff (made.trans extended) broke

theorem probe_ne_formatCall (code : Text) (s : FormatterSettings) :
    probe executable ≠ formatCall executable code s := by
  intro same
  cases congrArg Call.input same

/-- An answered question for the command is not asked again. -/
theorem IsTrace.probe_not_mem
    {found : Bool}
    (trace : IsTrace executable found formats) :
    probe executable ∉ formats := by
  intro member
  obtain ⟨code, s, same, -⟩ := trace.formatting _ member
  exact probe_ne_formatCall code s same

/-- The command is asked for once if the first question does not break off. -/
theorem IsHistory.count_le
    (history : IsHistory environment executable found calls)
    (unbroken : ∀ fault, environment [] (probe executable) ≠ .broken fault) :
    calls.count (probe executable) ≤ 1 := by
  have none_before {count : Nat} (unanswered : IsUnanswered environment executable count) :
      count = 0 := by
    refine Nat.eq_zero_of_not_pos fun positive => ?_
    obtain ⟨fault, broke⟩ := unanswered 0 positive
    exact unbroken fault broke
  cases history with
  | asking unanswered =>
      rw [none_before unanswered]
      exact Nat.zero_le 1
  | answered unanswered outcome answered trace =>
      have once := List.count_eq_zero.mpr trace.probe_not_mem
      rw [none_before unanswered, List.replicate_zero, List.nil_append, List.count_cons_self]
      omega

/-! ## Steps -/

theorem isAvailable_of_broken
    {fault : CallFault}
    (broke : environment calls (probe executable) = .broken fault) :
    isAvailable environment executable ⟨none, calls⟩ =
      (.error (fault.failure executable), ⟨none, calls ++ [probe executable]⟩) := by
  rw [isAvailable, call, broke]

theorem isAvailable_of_answered
    {outcome : Outcome}
    (answered : environment calls (probe executable) = outcome)
    (unbroken : ∀ fault, outcome ≠ .broken fault) :
    isAvailable environment executable ⟨none, calls⟩ =
      (.ok outcome.isSuccess, ⟨some outcome.isSuccess, calls ++ [probe executable]⟩) := by
  rw [isAvailable, call, answered]
  cases outcome with
  | broken fault => exact absurd rfl (unbroken fault)
  | _ => rfl

/-- A question is answered by a call, an earlier one or one that is made for it. -/
theorem IsHistory.isAvailable
    (history : IsHistory environment executable tool.available tool.calls) :
    ∃ answer next, tool.isAvailable environment executable = (answer, next) ∧
      IsHistory environment executable next.available next.calls ∧ tool.calls <+: next.calls ∧
      Answers environment executable next.calls answer ∧
      ∀ found, answer = .ok found → next.available = some found := by
  obtain ⟨available, calls⟩ := tool
  dsimp only at history ⊢
  cases history with
  | @asking count unanswered =>
      by_cases broken : ∃ fault, environment (List.replicate count (probe executable))
          (probe executable) = .broken fault
      · obtain ⟨fault, broke⟩ := broken
        have next : IsUnanswered environment executable (count + 1) := by
          intro n below
          rcases Nat.lt_succ_iff_lt_or_eq.mp below with earlier | rfl
          · exact unanswered n earlier
          · exact ⟨fault, broke⟩
        have history := IsHistory.asking next
        rw [List.replicate_succ'] at history
        exact ⟨_, _, isAvailable_of_broken broke, history, List.prefix_append _ _,
          .brokenOff List.prefix_rfl broke, fun found same => by cases same⟩
      · rw [not_exists] at broken
        have unused : IsTrace executable
            (environment (List.replicate count (probe executable)) (probe executable)).isSuccess [] :=
          ⟨fun some_call => absurd rfl some_call, by simp⟩
        exact ⟨_, _, isAvailable_of_answered rfl broken, .answered unanswered rfl broken unused,
          List.prefix_append _ _, .answered List.prefix_rfl rfl broken,
          fun found same => congrArg some (Except.ok.inj same)⟩
  | answered unanswered outcome unbroken trace =>
      exact ⟨_, _, rfl, .answered unanswered outcome unbroken trace, List.prefix_rfl,
        .answered ((List.prefix_append_right_inj _).mpr (by simp)) outcome unbroken,
        fun found same => congrArg some (Except.ok.inj same)⟩

/-- A formatter that has found its command adds code to format to its calls. -/
theorem IsHistory.append
    {code : Text}
    (history : IsHistory environment executable (some true) calls)
    (accepted : Source.check code = .ok ())
    (s : FormatterSettings) :
    IsHistory environment executable (some true) (calls ++ [formatCall executable code s]) := by
  generalize known : some true = available at history ⊢
  cases history with
  | asking =>
      cases known
  | answered unanswered outcome unbroken trace =>
      have longer := List.forall_mem_append.mpr
        ⟨trace.formatting, List.forall_mem_singleton.mpr ⟨code, s, rfl, accepted⟩⟩
      rw [List.append_assoc, List.cons_append]
      exact .answered unanswered outcome unbroken ⟨fun _ => (Option.some.inj known).symm, longer⟩

/-- A call that formats settles its request. -/
theorem settles_result
    {code : Text} {s : FormatterSettings}
    (calls : List Call) :
    Settles environment executable (calls ++ [formatCall executable code s]) (.formatting code s)
      (.formatting (result executable (formatCall executable code s)
        (environment calls (formatCall executable code s)))) := by
  have failed {reason : Text} (own : IsReason (formatCall executable code s)
      (environment calls (formatCall executable code s)) reason) :
      Settles environment executable (calls ++ [formatCall executable code s]) (.formatting code s)
        (.formatting (.error (.generator (.formatting .ruff (.commandFailed reason))))) :=
    .commandFailed List.prefix_rfl own
  cases outcome : environment calls (formatCall executable code s) with
  | exited status text errors =>
      rw [result]
      split_ifs with success
      · rw [success] at outcome
        exact .output List.prefix_rfl outcome
      · exact failed (by rw [outcome]; exact .status success)
  | timedOut => exact failed (by rw [outcome]; exact .timeout)
  | failed reason => exact failed (by rw [outcome]; exact .failure)
  | missing => exact .vanished List.prefix_rfl outcome
  | broken fault => exact .brokenOff List.prefix_rfl outcome

/-- Code that is not formatted, because the check refuses it, settles its request. -/
theorem settles_refused
    {code : Text} {s : FormatterSettings} {fault : Source.Fault}
    (refused : Source.check code = .error fault) :
    Settles environment executable calls (.formatting code s)
      (.formatting (.error (sourceFailure .ruff fault))) := by
  cases fault with
  | invalidSyntax => exact .invalidSyntax refused
  | _ => exact .unwritten refused (by simp)

/-- One request: calls are only added, and they and the answer are as they should be. -/
theorem serve_settles
    (request : Request)
    (history : IsHistory environment executable tool.available tool.calls) :
    let served := tool.serve environment executable request
    IsHistory environment executable served.2.available served.2.calls ∧
      tool.calls <+: served.2.calls ∧
      Settles environment executable served.2.calls request served.1 := by
  obtain ⟨answer, next, asked, history', extended, answers, known⟩ := history.isAvailable
  cases request with
  | availability =>
      dsimp only
      rw [serve, asked]
      exact ⟨history', extended, .availability answers⟩
  | formatting code s =>
      dsimp only
      rw [serve, format, asked]
      cases answer with
      | error failure =>
          exact ⟨history', extended, .unanswered answers⟩
      | ok found =>
          cases found with
          | false =>
              exact ⟨history', extended, .notInstalled answers⟩
          | true =>
              -- Only code that is accepted, with a length that is spelled, makes another call.
              cases checked : Source.check code with
              | error fault =>
                  exact ⟨history', extended, settles_refused checked⟩
              | ok accepted =>
                  dsimp only
                  split_ifs with spelled
                  · have available := known true rfl
                    rw [available] at history'
                    have longer := history'.append checked s
                    rw [← available] at longer
                    exact ⟨longer, extended.trans (List.prefix_append _ _), settles_result _⟩
                  · exact ⟨history', extended, .unspelled (Bool.of_not_eq_true spelled)⟩

/-! ## Runs -/

/-- Any sequence of requests. -/
theorem serveAll_settles
    (requests : List Request)
    (history : IsHistory environment executable tool.available tool.calls) :
    let served := serveAll environment executable requests tool
    IsHistory environment executable served.2.available served.2.calls ∧
      tool.calls <+: served.2.calls ∧
      List.Forall₂ (Settles environment executable served.2.calls) requests served.1 := by
  induction requests generalizing tool with
  | nil => exact ⟨history, List.prefix_rfl, .nil⟩
  | cons request rest inductionHypothesis =>
      obtain ⟨next, extended, settles⟩ := serve_settles request history
      obtain ⟨last, extended', settled⟩ := inductionHypothesis next
      -- What is settled stays settled, since later requests only add calls.
      exact ⟨last, extended.trans extended', .cons (settles.mono extended') settled⟩

/-- A new formatter settles every sequence of requests, whatever the command does. It asks for the
command until it gets an answer, so once if the first question does not break off; then it only formats
code, and only if the command was there. -/
theorem serveAll_new_settles
    (environment : Environment) (executable : Text) (requests : List Request) :
    List.Forall₂ (Settles environment executable (serveAll environment executable requests {}).2.calls)
      requests (serveAll environment executable requests {}).1 ∧
      IsHistory environment executable (serveAll environment executable requests {}).2.available
        (serveAll environment executable requests {}).2.calls ∧
      ((∀ fault, environment [] (probe executable) ≠ .broken fault) →
        (serveAll environment executable requests {}).2.calls.count (probe executable) ≤ 1) := by
  have new : IsHistory environment executable none [] :=
    @IsHistory.asking environment executable 0 fun n below => absurd below (Nat.not_lt_zero n)
  obtain ⟨history, -, settled⟩ := @serveAll_settles environment executable {} requests new
  exact ⟨settled, history, history.count_le⟩

/-- A question that always breaks off is asked again for every request. -/
theorem serveAll_of_broken
    {fault : CallFault}
    (broke : ∀ calls, environment calls (probe executable) = .broken fault)
    (requests : List Request) (calls : List Call) :
    (serveAll environment executable requests ⟨none, calls⟩).2 =
      ⟨none, calls ++ List.replicate requests.length (probe executable)⟩ := by
  induction requests generalizing calls with
  | nil =>
      simp [serveAll]
  | cons request rest inductionHypothesis =>
      have asked := isAvailable_of_broken (broke calls)
      have served : (serve environment executable request ⟨none, calls⟩).2 =
          ⟨none, calls ++ [probe executable]⟩ := by
        cases request with
        | availability => rw [serve, asked]; rfl
        | formatting code s => rw [serve, format, asked]; rfl
      rw [serveAll]
      dsimp only
      rw [served, inductionHypothesis, List.append_assoc, List.length_cons, List.replicate_succ]
      rfl

-- A version that is no encoded text breaks the question off.
example :
    (serveAll (subprocess fun _ _ => .exited 0 [0xFF] []) FormatterName.ruff.text
      [.availability, .availability] {}).2.calls.length = 2 := by
  decide +kernel

/-- The command answers the question for it, and is gone afterwards. -/
def vanishingProcess : Process := fun calls _ =>
  if calls.isEmpty then .exited 0 [] [] else .missing

/-- Code is not formatted by a command that vanishes, and the error is not the generator's. -/
theorem format_vanishingProcess
    {formatter : FormatterName} {code : Text} {s : FormatterSettings}
    (kinds : s.HasKinds)
    (accepted : Source.check code = .ok ()) :
    (format (subprocess vanishingProcess) formatter.text code s {}).1 =
      .error (.system .notFound formatter.text) := by
  have answered : subprocess vanishingProcess [] (probe formatter.text) = .exited 0 [] [] :=
    subprocess_of_isPlain (isPlain_probe formatter)
  have gone : subprocess vanishingProcess [probe formatter.text]
      (formatCall formatter.text code s) = .missing :=
    subprocess_of_isPlain (isPlain_formatCall kinds)
  have found := isAvailable_of_answered answered (by simp)
  rw [format, found]
  simp only [Outcome.isSuccess, decide_true, accepted, spellsLength_of_isSpellable kinds.spelled, if_true, call,
    List.nil_append, gone, result]

theorem serveAll_vanishing_escapes :
    Source.check (.ofString "x = 1\n") = .ok () ∧
      (serveAll (subprocess vanishingProcess) FormatterName.ruff.text
        [.formatting (.ofString "x = 1\n") {}] {}).1 =
          [.formatting (.error (.system .notFound FormatterName.ruff.text))] := by
  have accepted : (Source.check (.ofString "x = 1\n")).toOption.isSome = true := by
    decide +kernel
  obtain ⟨⟨⟩, checked⟩ := exists_ok_of_isSome accepted
  have escaped := @format_vanishingProcess .ruff _ _ FormatterSettings.hasKinds_default checked
  refine ⟨checked, ?_⟩
  simp only [serveAll, serve, Prod.map, escaped]

end Tool
end RecordGen.Formatter
