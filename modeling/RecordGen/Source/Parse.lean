import RecordGen.Source.Grammar.Statement

/-!
# Reading code

A text as a syntax tree, or the reason why it is no code.
-/

namespace RecordGen.Source

/-- The tree of a text with unified line breaks. -/
def tree? (t : Text) : Option Tree := do
  let leaves ← leaves? t
  let limit := 8 * t.length + 64
  match ← (Grammar.wholeText ⟨limit, Grammar.readRule limit limit⟩).run leaves with
  | (tree, []) => some tree
  | _ => none

/-- The tree of a text, or the reason why it has none. -/
def parse (t : Text) : Except Fault Tree :=
  if t.hasSurrogate then .error .unencodable
  else if t.any fun c => c.val = 0 then .error .nullCharacter
  else
    match tree? t.unifyLineBreaks with
    | some tree => .ok tree
    | none => .error .invalidSyntax

def check (t : Text) : Except Fault Unit := (parse t).map fun _ => ()

end RecordGen.Source
