import RecordGen.Command.Arguments
import RecordGen.Proofs.Text.Pieces
import RecordGen.Record.Emit
import Mathlib.Data.List.Basic

/-!
# The command line of a comment

A generation comment shows the command that was run by the last components of its paths and by the
options that differ from their defaults. Two contexts of the command that agree in these are shown
alike, wherever their files are, and what is shown has no slash.
-/

namespace RecordGen.CommandLine

variable {values other : Json.Members}

/-! ## Last components -/

theorem slash_not_mem_lastComponent (path : Text) :
    CodePoint.ofChar '/' ∉ lastComponent path := by
  have parts : ∀ component ∈ (path.pieces (CodePoint.ofChar '/')).filter fun c =>
      c ≠ [] ∧ c ≠ Text.ofString ".", CodePoint.ofChar '/' ∉ component := fun component member =>
    Text.mark_not_mem_of_mem_pieces (List.mem_filter.mp member).1
  rw [lastComponent]
  cases last : ((path.pieces (CodePoint.ofChar '/')).filter fun c =>
      c ≠ [] ∧ c ≠ Text.ofString ".").getLast? with
  | none => exact List.not_mem_nil
  | some component => exact parts component (List.mem_of_getLast? last)

/-! ## The command -/

/-- A parameter as the command declares it. -/
structure Declared where
  name : Text
  /-- The spelling of an option; an argument has none. -/
  option : Option Text
  isPath : Bool
  isFlag : Bool
  default : Json.Value

/-- The parameters in the order in which the command declares them. -/
def declared : List Declared :=
  [⟨.ofString "config", some (.ofString "--config"), true, false, .null⟩,
    ⟨.ofString "formatter", some (.ofString "--formatter"), false, false, .null⟩,
    ⟨.ofString "capitalize_fields", some (.ofString "--capitalize-fields"), false, true,
      .bool false⟩,
    ⟨.ofString "force", some (.ofString "--force"), false, true, .bool false⟩,
    ⟨.ofString "path", none, true, false, .null⟩,
    ⟨.ofString "output", none, true, false, .null⟩]

/-- The value of a parameter, if it counts as true. -/
def given? (values : Json.Members) (name : Text) : Option Json.Value :=
  (values.get? name).filter Json.Value.isTruthy

/-- The last component of a path that is given. -/
def lastComponent? (values : Json.Members) (name : Text) : Option Text :=
  (given? values name).map fun value => lastComponent value.plain

namespace Declared

/-- A value as it is shown: a path by its last component. -/
def shownValue (parameter : Declared) (value : Json.Value) : Text :=
  if parameter.isPath then lastComponent value.plain else value.plain

def argumentWord? (parameter : Declared) (values : Json.Members) : Option Text :=
  match parameter.option with
  | none => (given? values parameter.name).map parameter.shownValue
  | some _ => none

/-- The words of an option that is given and differs from its default: a flag alone, and every other
option with its value. -/
def optionWords (parameter : Declared) (values : Json.Members) : List Text :=
  match parameter.option, given? values parameter.name with
  | some option, some value =>
    if value = parameter.default then []
    else if parameter.isFlag then [option]
    else [option, parameter.shownValue value]
  | _, _ => []

end Declared

/-- The words of a command line behind the program: the arguments, then the options, each in the order
of declaration. -/
def givenWords (values : Json.Members) : List Text :=
  declared.filterMap (·.argumentWord? values) ++ declared.flatMap (·.optionWords values)

/-! ## What is shown -/

/-- No default counts as true. -/
theorem ne_default_of_given?
    {name : Text} {value : Json.Value} {parameter : Declared}
    (member : parameter ∈ declared)
    (given : given? values name = some value) :
    value ≠ parameter.default := by
  have truthy := (Option.filter_eq_some_iff.mp given).2
  have untrue : (declared.all fun parameter => !parameter.default.isTruthy) = true := by decide
  rintro rfl
  have own := List.all_eq_true.mp untrue parameter member
  rw [truthy] at own
  cases own

/-- An option that is given differs from its default. -/
theorem optionWords_of_mem
    {parameter : Declared}
    (member : parameter ∈ declared) :
    parameter.optionWords values = parameter.option.elim [] fun option =>
      (given? values parameter.name).elim [] fun value =>
        if parameter.isFlag then [option] else [option, parameter.shownValue value] := by
  rw [Declared.optionWords]
  cases parameter.option with
  | none => rfl
  | some option =>
      cases given : given? values parameter.name with
      | none => rfl
      | some value => exact if_neg (ne_default_of_given? member given)

/-- The words of a command line, parameter by parameter. -/
theorem givenWords_eq (values : Json.Members) :
    givenWords values =
      (lastComponent? values (.ofString "path")).toList ++
        (lastComponent? values (.ofString "output")).toList ++
        (lastComponent? values (.ofString "config")).elim [] (fun name =>
          [.ofString "--config", name]) ++
        (given? values (.ofString "formatter")).elim [] (fun value =>
          [.ofString "--formatter", value.plain]) ++
        (given? values (.ofString "capitalize_fields")).elim [] (fun _ =>
          [.ofString "--capitalize-fields"]) ++
        (given? values (.ofString "force")).elim [] (fun _ => [.ofString "--force"]) := by
  -- The declared order mixes arguments and options, so each kind is taken from it on its own.
  have options : declared.flatMap (·.optionWords values) = declared.flatMap fun parameter =>
      parameter.option.elim [] fun option =>
        (given? values parameter.name).elim [] fun value =>
          if parameter.isFlag then [option] else [option, parameter.shownValue value] :=
    List.flatMap_congr fun parameter member => optionWords_of_mem member
  have arguments (name : Text) :
      Declared.argumentWord? ⟨name, none, true, false, .null⟩ values = lastComponent? values name :=
    rfl
  rw [givenWords, options, List.filterMap_eq_flatMap_toList]
  simp only [declared, List.flatMap_cons, List.flatMap_nil, arguments, Option.elim_none,
    List.append_nil, ← List.append_assoc, lastComponent?, Option.elim_map]
  rfl

/-- What is shown is the program and the words of what is given. -/
theorem shown_eq (values : Json.Members) :
    shown values = Text.join [CodePoint.space] (programName :: givenWords values) := by
  have given : shown values = Text.join [CodePoint.space] (programName ::
      parameters.flatMap fun entry => (given? values entry.1).elim [] (words entry.2)) := by
    rw [shown]
    congr 3
    funext entry
    cases found : values.get? entry.1 with
    | none => simp only [given?, found, Option.filter_none, Option.elim_none]
    | some value =>
        simp only [given?, found, Option.filter_some]
        split <;> rfl
  have argument (name : Text) :
      (given? values name).elim [] (words (.path none)) = (lastComponent? values name).toList := by
    rw [lastComponent?]
    cases given? values name <;> rfl
  rw [given, givenWords_eq]
  simp only [parameters, List.flatMap_cons, List.flatMap_nil, argument, List.append_nil,
    ← List.append_assoc, lastComponent?, Option.elim_map]
  rfl

/-! ## Contexts -/

/-- The formatter is one of the command's choices, if one is given. -/
def HasChoice (values : Json.Members) : Prop :=
  ∀ value, given? values (.ofString "formatter") = some value →
    ∃ choice : Command.FormatterChoice, value = .str choice.text

/-- Two contexts of the command differ at most in the directories of their paths. -/
structure SameInvocation (values other : Json.Members) : Prop where
  formatter : given? values (.ofString "formatter") = given? other (.ofString "formatter")
  capitalize : (given? values (.ofString "capitalize_fields")).isSome =
    (given? other (.ofString "capitalize_fields")).isSome
  force : (given? values (.ofString "force")).isSome = (given? other (.ofString "force")).isSome
  path : lastComponent? values (.ofString "path") = lastComponent? other (.ofString "path")
  output : lastComponent? values (.ofString "output") = lastComponent? other (.ofString "output")
  config : lastComponent? values (.ofString "config") = lastComponent? other (.ofString "config")

/-- A code point that options, choices and the name of the program are spelled with. -/
def isOptionMark (c : CodePoint) : Bool :=
  c.isAsciiLetter || c = CodePoint.ofChar '-' || c = CodePoint.ofChar '_'

def pathNames : List Text := ["path", "output", "config"].map Text.ofString

/-- A word behind the program is fixed, or the last component of a path. -/
theorem mem_givenWords
    (chosen : HasChoice values)
    {word : Text}
    (member : word ∈ givenWords values) :
    word.all isOptionMark = true ∨ ∃ name ∈ pathNames, lastComponent? values name = some word := by
  have component {name : Text} (isPath : name ∈ pathNames)
      (own : word ∈ (lastComponent? values name).toList) :
      ∃ name ∈ pathNames, lastComponent? values name = some word :=
    ⟨name, isPath, Option.mem_toList.mp own⟩
  have flag {name option : Text} (plain : option.all isOptionMark = true)
      (own : word ∈ (given? values name).elim [] fun _ => [option]) :
      word.all isOptionMark = true := by
    cases given : given? values name with
    | none =>
        rw [given] at own
        cases own
    | some value =>
        rw [given] at own
        rwa [List.mem_singleton.mp own]
  -- One case for each parameter: a path is a last component, and options have fixed spellings.
  simp only [givenWords_eq, List.mem_append] at member
  rcases member with ((((path | output) | config) | formatter) | capitalize) | force
  · exact Or.inr (component (by decide) path)
  · exact Or.inr (component (by decide) output)
  · cases given : lastComponent? values (.ofString "config") with
    | none =>
        rw [given] at config
        cases config
    | some name =>
        rw [given, Option.elim_some, List.mem_cons, List.mem_singleton] at config
        rcases config with rfl | rfl
        · exact Or.inl (by decide)
        · exact Or.inr ⟨_, by decide, given⟩
  · cases given : given? values (.ofString "formatter") with
    | none =>
        rw [given] at formatter
        cases formatter
    | some value =>
        obtain ⟨choice, rfl⟩ := chosen value given
        rw [given, Option.elim_some, List.mem_cons, List.mem_singleton] at formatter
        rcases formatter with rfl | rfl
        · exact Or.inl (by decide)
        · exact Or.inl (by cases choice <;> decide)
  · exact Or.inl (flag (by decide) capitalize)
  · exact Or.inl (flag (by decide) force)

/-- What is shown consists of fixed words, blanks and the last components of paths. -/
theorem mem_shown
    (chosen : HasChoice values)
    {c : CodePoint}
    (member : c ∈ shown values) :
    c = CodePoint.space ∨ isOptionMark c = true ∨
      ∃ name ∈ pathNames, ∃ component, lastComponent? values name = some component ∧
        c ∈ component := by
  rw [shown_eq] at member
  rcases Text.mem_join member with blank | ⟨word, inWords, inWord⟩
  · exact Or.inl (List.mem_singleton.mp blank)
  · right
    rcases List.mem_cons.mp inWords with rfl | later
    · exact Or.inl (List.all_eq_true.mp (by decide) c inWord)
    · refine (mem_givenWords chosen later).imp (fun plain => List.all_eq_true.mp plain c inWord) ?_
      rintro ⟨name, isPath, given⟩
      exact ⟨name, isPath, word, given, inWord⟩

/-- A command is shown by its last components, wherever its files are. -/
theorem shown_congr (same : SameInvocation values other) : shown values = shown other := by
  have flag (context : Json.Members) (name option : Text) :
      (given? context name).elim [] (fun _ => [option]) =
        if (given? context name).isSome then [option] else [] := by
    cases given? context name <;> rfl
  rw [shown_eq, shown_eq, givenWords_eq, givenWords_eq, same.path, same.output, same.config,
    same.formatter]
  simp only [flag, same.capitalize, same.force]

/-- No directory is shown. -/
theorem slash_not_mem_shown (chosen : HasChoice values) : CodePoint.ofChar '/' ∉ shown values := by
  intro member
  rcases mem_shown chosen member with blank | option | ⟨name, -, component, given, inComponent⟩
  · exact absurd blank (by decide)
  · exact absurd option (by decide)
  · obtain ⟨value, -, rfl⟩ := Option.map_eq_some_iff.mp given
    exact slash_not_mem_lastComponent _ inComponent

/-- The directories of a command do not matter to what is shown, and are not in it. What is shown is
the program, the arguments that are given, and the options that are given and differ from their
defaults. -/
theorem shown_depends_on_lastComponents
    (same : SameInvocation values other)
    (chosen : HasChoice values) :
    shown values = shown other ∧ CodePoint.ofChar '/' ∉ shown values ∧
      shown values = Text.join [CodePoint.space] (programName :: givenWords values) :=
  ⟨shown_congr same, slash_not_mem_shown chosen, shown_eq values⟩

/-- A command with paths in the working directory. -/
def nearbyFiles : Json.Members :=
  [(.ofString "path", .str (.ofString "point.json")), (.ofString "output", .null),
    (.ofString "config", .str (.ofString "settings.json")),
    (.ofString "formatter", .str (.ofString "ruff")), (.ofString "capitalize_fields", .bool true),
    (.ofString "force", .bool false)]

/-- The same command with paths in other directories. -/
def distantFiles : Json.Members :=
  [(.ofString "path", .str (.ofString "/data/./point.json/")), (.ofString "output", .null),
    (.ofString "config", .str (.ofString "../settings.json/.")),
    (.ofString "formatter", .str (.ofString "ruff")), (.ofString "capitalize_fields", .bool true),
    (.ofString "force", .bool false)]

theorem shown_nearby_eq_shown_distant :
    shown nearbyFiles = shown distantFiles ∧ CodePoint.ofChar '/' ∉ shown nearbyFiles ∧
      shown nearbyFiles = Text.join [CodePoint.space] (programName :: givenWords nearbyFiles) := by
  have same : SameInvocation nearbyFiles distantFiles :=
    ⟨by decide, by decide, by decide, by decide, by decide, by decide⟩
  have chosen : HasChoice nearbyFiles := by
    intro value given
    exact ⟨.ruff, (Option.some.inj given).symm⟩
  exact shown_depends_on_lastComponents same chosen

example : shown distantFiles = Text.ofString
    "json_schema_to_struct point.json --config settings.json --formatter ruff --capitalize-fields" := by
  rw [Text.ofString_ofList]
  decide +kernel

end RecordGen.CommandLine
