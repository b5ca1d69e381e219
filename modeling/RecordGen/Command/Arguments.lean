import RecordGen.Text

/-!
# Command arguments

What the words behind the command ask for: options, which may stand anywhere, and one or two paths.
-/

namespace RecordGen.Command

/-- The formatter that the command line asks for. -/
inductive FormatterChoice where
  | black
  | ruff
  | none
deriving DecidableEq, Repr

namespace FormatterChoice

def all : List FormatterChoice := [black, ruff, none]

def text : FormatterChoice → Text
  | black => .ofString "black"
  | ruff => .ofString "ruff"
  | none => .ofString "none"

end FormatterChoice

/-- What a command line asks for. -/
structure Request where
  config : Option Text
  formatter : Option FormatterChoice
  capitalize : Bool
  force : Bool
  path : Text
  output : Option Text
deriving DecidableEq, Repr

/-- The words of a command line sorted into options and the rest. Of an option that is repeated the
last value counts. -/
structure Words where
  config : Option Text := none
  formatter : Option Text := none
  capitalize : Bool := false
  force : Bool := false
  /-- The words that belong to no option. -/
  positional : List Text := []
deriving DecidableEq, Repr

inductive ValueOption where
  | config
  | formatter
deriving DecidableEq, Repr

def Words.setValue (words : Words) (option : ValueOption) (value : Text) : Words :=
  match option with
  | .config => { words with config := some value }
  | .formatter => { words with formatter := some value }

def longOption? (name : Text) : Option ValueOption :=
  if name = Text.ofString "--config" then some .config
  else if name = Text.ofString "--formatter" then some .formatter
  else none

def shortOption? (letter : CodePoint) : Option ValueOption :=
  if letter = CodePoint.ofChar 'c' then some .config
  else if letter = CodePoint.ofChar 'f' then some .formatter
  else none

/-- Sets a flag of a long spelling. -/
def Words.setFlag? (words : Words) (name : Text) : Option Words :=
  if name = Text.ofString "--capitalize-fields" then some { words with capitalize := true }
  else if name = Text.ofString "--force" then some { words with force := true }
  else none

/-- Sorts words; `none` if an option does not exist, lacks its value or takes none. Behind two
hyphens on their own nothing is an option. -/
def sort? (words : Words) : List Text → Option Words
  | [] => some words
  | first :: rest =>
    let hyphen := CodePoint.ofChar '-'
    let positional := fun () => sort? { words with positional := words.positional ++ [first] } rest
    match first with
    | c :: letter :: more =>
      if c ≠ hyphen then positional ()
      else if letter = hyphen then
        if more.isEmpty then some { words with positional := words.positional ++ rest }
        else
          let (name, given) := first.cut (CodePoint.ofChar '=')
          match longOption? name, given with
          | some option, some value => sort? (words.setValue option value) rest
          | some option, none =>
            match rest with
            | value :: rest => sort? (words.setValue option value) rest
            | [] => none
          | none, some _ => none
          | none, none =>
            match words.setFlag? name with
            | some words => sort? words rest
            | none => none
      else
        match shortOption? letter with
        | none => none
        | some option =>
          if more.isEmpty then
            match rest with
            | value :: rest => sort? (words.setValue option value) rest
            | [] => none
          else sort? (words.setValue option more) rest
    | _ => positional ()

/-- What some words ask for; `none` if they cannot be understood. -/
def Request.ofWords? (arguments : List Text) : Option Request := do
  let words ← sort? {} arguments
  let formatter ←
    match words.formatter with
    | none => some none
    | some name => (FormatterChoice.all.find? fun choice => choice.text = name).map some
  match words.positional with
  | [path] => some ⟨words.config, formatter, words.capitalize, words.force, path, none⟩
  | [path, output] =>
    some ⟨words.config, formatter, words.capitalize, words.force, path, some output⟩
  | _ => none

end RecordGen.Command
