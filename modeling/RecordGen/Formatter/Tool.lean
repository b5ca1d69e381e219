import RecordGen.Formatter.Layout
import RecordGen.Formatter.Process

/-!
# The external formatter

The formatter that hands code to a command. Whether the command is there is asked before it is used,
and the answer is kept.
-/

namespace RecordGen.Formatter

/-- What an external formatter knows: whether the command is available, once that is known, and the
calls made so far. -/
structure Tool where
  available : Option Bool := none
  calls : List Call := []
deriving DecidableEq, Repr

namespace Tool

def call (environment : Environment) (c : Call) (tool : Tool) : Outcome × Tool :=
  (environment tool.calls c, { tool with calls := tool.calls ++ [c] })

/-- The call that asks a command for its version. -/
def probe (executable : Text) : Call :=
  ⟨[.str executable, .str (.ofString "--version")], none, 5⟩

/-- Whether the command is available. The answer is kept; a call that breaks off is no answer. -/
def isAvailable (environment : Environment) (executable : Text) (tool : Tool) :
    Attempt Bool × Tool :=
  match tool.available with
  | some known => (.ok known, tool)
  | none =>
    let (outcome, tool) := tool.call environment (probe executable)
    match outcome with
    | .broken fault => (.error (fault.failure executable), tool)
    | outcome => (.ok outcome.isSuccess, { tool with available := some outcome.isSuccess })

/-- The call that formats code. Options that count as false are left out. -/
def formatCall (executable code : Text) (s : FormatterSettings) : Call :=
  let option (name : String) (value word : Json.Value) : List Json.Value :=
    if value.isTruthy then [.str (.ofString name), word] else []
  ⟨[.str executable, .str (.ofString "format"), .str (.ofString "--stdin-filename"),
      .str (.ofString "code.py")] ++
      option "--line-length" s.lineLength (.str s.lineLength.plain) ++
      option "--target-version" s.targetVersion s.targetVersion,
    some code, 30⟩

/-- The line length is left out, or it can be spelled. -/
def spellsLength (s : FormatterSettings) : Bool :=
  !s.lineLength.isTruthy || s.lineLength.isSpellable

/-- The reason that a command gives for its status: what it printed, or the status. -/
def statusReason (status : Int) (errors : Text) : Text :=
  match errors.trim Unicode.isBlank with
  | [] => .ofString "exit status " ++ Text.ofInt status
  | reason => reason

/-- The reason of a call that took too long. -/
def timeoutReason (c : Call) : Text :=
  .ofString "Command '" ++ (Json.Value.arr c.command).shown ++ .ofString "' timed out after " ++
    .ofNat c.timeout ++ .ofString " seconds"

/-- What a formatting call gives. -/
def result (executable : Text) (c : Call) : Outcome → Attempt Text
  | .exited status output errors =>
    if status = 0 then .ok output
    else Attempt.refuse (.formatting .ruff (.commandFailed (statusReason status errors)))
  | .timedOut => Attempt.refuse (.formatting .ruff (.commandFailed (timeoutReason c)))
  | .failed reason => Attempt.refuse (.formatting .ruff (.commandFailed reason))
  | .missing => .error (.system .notFound executable)
  | .broken fault => .error (fault.failure executable)

/-- Formats code: only if the command is available and the code passes the check, and only with a line
length that can be spelled. -/
def format (environment : Environment) (executable code : Text) (s : FormatterSettings)
    (tool : Tool) : Attempt Text × Tool :=
  match tool.isAvailable environment executable with
  | (.error failure, tool) => (.error failure, tool)
  | (.ok false, tool) =>
    (Attempt.refuse (.formatting .ruff (.notInstalled executable)), tool)
  | (.ok true, tool) =>
    match Source.check code with
    | .error fault => (.error (sourceFailure .ruff fault), tool)
    | .ok _ =>
      if spellsLength s then
        let c := formatCall executable code s
        let (outcome, tool) := tool.call environment c
        (result executable c outcome, tool)
      else (.error (.settings .tooManyDigits), tool)

end Tool

/-! ## Environments -/

/-- Nothing is installed. -/
def emptyEnvironment : Environment := subprocess fun _ _ => .missing

def wordAfter? (name : Text) : List Json.Value → Option Text
  | word :: value :: rest =>
    if word = .str name then
      match value with
      | .str t => some t
      | _ => none
    else wordAfter? name (value :: rest)
  | _ => none

/-- The number that a decimal text spells. -/
def number? (t : Text) : Option Nat :=
  if !t.isEmpty && t.all CodePoint.isAsciiDigit then
    some (t.foldl (fun n c => n * 10 + (c.val - 0x30)) 0)
  else none

/-- The command `ruff`: it answers a probe, and it lays code out by the rules of `Source.layout?`, with
line feeds alone. -/
def layoutProcess : Process := fun _ c =>
  match c.input with
  | none => .exited 0 (Utf8.encode (.ofString "ruff")) []
  | some code =>
    let lineLength := ((wordAfter? (.ofString "--line-length") c.command).bind number?).getD 88
    match Source.layout? ⟨lineLength, true, true, none⟩ code.unifyLineBreaks with
    | some laidOut => .exited 0 (Utf8.encode laidOut) []
    | none => .exited 2 [] (Utf8.encode (.ofString "error: Failed to parse"))

/-- The command `ruff` is installed. -/
def installedEnvironment : Environment := subprocess layoutProcess

end RecordGen.Formatter
