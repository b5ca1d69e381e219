import RecordGen.Failure

/-!
# Running a command

A call of a command, and what becomes of it. The words of a call are looked at before a process is
started, and what the process prints is read as UTF-8; either can break the call off. An environment
answers every call, given the calls before it, so that any behaviour of a command can be described.
-/

namespace RecordGen.Formatter

/-- A run of a command: its words, what it is given to read, and how many seconds it may take. -/
structure Call where
  command : List Json.Value
  input : Option Text
  timeout : Nat
deriving DecidableEq, Repr

/-- Why a word cannot be handed to a process. -/
inductive WordFault where
  /-- It is no text, but a value of this kind. -/
  | kind (name : Text)
  /-- It has a surrogate that stands for no octet. -/
  | surrogate
  | null
deriving DecidableEq, Repr

def WordFault.failure : WordFault → Failure
  | kind name => .settings (.argumentKind name)
  | surrogate => .unencodable
  | null => .settings .argumentNull

/-- What breaks a call off, so that it has no status. -/
inductive CallFault where
  | word (fault : WordFault)
  /-- The system refuses to run the command. -/
  | forbidden
  /-- The words are longer than the system allows. -/
  | tooLong
  /-- What the command has printed is no encoded text. -/
  | undecodable (printed : Bytes) (error : EncodingError)
deriving DecidableEq, Repr

/-- A broken call as its caller sees it. -/
def CallFault.failure (executable : Text) : CallFault → Failure
  | word fault => fault.failure
  | forbidden => .system .notPermitted executable
  | tooLong => .settings (.argumentsTooLong executable)
  | undecodable printed error => .settings (.undecodableOutput printed error)

/-- What becomes of a call. -/
inductive Outcome where
  | exited (status : Int) (output errors : Text)
  | timedOut
  /-- The call fails with a reason. -/
  | failed (reason : Text)
  | missing
  | broken (fault : CallFault)
deriving DecidableEq, Repr

def Outcome.forbidden : Outcome := broken .forbidden

/-- The command has exited with 0. -/
def Outcome.isSuccess : Outcome → Bool
  | exited status _ _ => status = 0
  | _ => false

/-- The outcome of a call behind some earlier calls. -/
abbrev Environment := List Call → Call → Outcome

/-! ## Processes -/

/-- How a process ends. What it prints are octets. -/
inductive Ending where
  | exited (status : Int) (output errors : Bytes)
  | timedOut
  | missing
  | forbidden
  | tooLong
deriving DecidableEq, Repr

/-- The ending of a process behind some earlier calls. -/
abbrev Process := List Call → Call → Ending

/-- A low surrogate that stands for an octet which is no UTF-8. -/
def isEscapedOctet (c : CodePoint) : Bool := 0xDC80 ≤ c.val && c.val < 0xDD00

/-- The fault of a word, if it has one. -/
def wordFault? : Json.Value → Option WordFault
  | .str t =>
    if t.any fun c => c.isSurrogate && !isEscapedOctet c then some .surrogate
    else if t.any fun c => c.val = 0 then some .null
    else none
  | value => some (.kind value.kindName)

/-- The fault of the first word that has one. -/
def Call.wordFault? (c : Call) : Option WordFault := c.command.findSome? Formatter.wordFault?

/-- The outcome of a process. Its output is read before its errors, both as UTF-8 with line feeds
alone. -/
def Ending.outcome : Ending → Outcome
  | exited status output errors =>
    match Utf8.decode .refused output with
    | .error error => .broken (.undecodable output error)
    | .ok printed =>
      match Utf8.decode .refused errors with
      | .error error => .broken (.undecodable errors error)
      | .ok complaint => .exited status printed.unifyLineBreaks complaint.unifyLineBreaks
  | timedOut => .timedOut
  | missing => .missing
  | forbidden => .forbidden
  | tooLong => .broken .tooLong

/-- Calls are answered by processes that are handed their words. The input of a call is code that has
passed the check, so that it always has an encoding. -/
def subprocess (process : Process) : Environment := fun calls c =>
  match c.wordFault? with
  | some fault => .broken (.word fault)
  | none => (process calls c).outcome

end RecordGen.Formatter
