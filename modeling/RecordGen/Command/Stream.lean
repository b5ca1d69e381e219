import RecordGen.Text

/-!
# Streams

Texts as the two output streams of a run show them.
-/

namespace RecordGen.Command

/-- The text behind an escape sequence of a terminal that starts it: parameters and a letter. -/
def afterTerminalSequence? (t : Text) : Option Text :=
  let isParameter (c : CodePoint) : Bool :=
    c.isAsciiDigit || c = CodePoint.ofChar ';' || c = CodePoint.ofChar '?'
  match t with
  | escape :: bracket :: rest =>
    if escape.val = 0x1B ∧ bracket = CodePoint.ofChar '[' then
      match rest.dropWhile isParameter with
      | letter :: after => if letter.isAsciiLetter then some after else none
      | [] => none
    else none
  | _ => none

def withoutTerminalSequences : (fuel : Nat) → Text → Text
  | 0, t => t
  | _, [] => []
  | fuel + 1, c :: rest =>
    match afterTerminalSequence? (c :: rest) with
    | some after => withoutTerminalSequences fuel after
    | none => c :: withoutTerminalSequences fuel rest

/-- A text as a stream shows it that is no terminal. -/
def streamed (t : Text) : Text := withoutTerminalSequences (t.length + 1) t

/-- A text for the stream of messages: lone surrogates are spelled by their numbers. -/
def messageText (t : Text) : Text :=
  (streamed t).flatMap fun c =>
    if c.isSurrogate then Text.ofString "\\u" ++ Text.hex 4 c.val else [c]

end RecordGen.Command
