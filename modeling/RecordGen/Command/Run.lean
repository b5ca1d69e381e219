import RecordGen.Command.Location
import RecordGen.Command.Override
import RecordGen.Command.Stream
import RecordGen.Files.Write
import RecordGen.Record.Emit

/-!
# Running the command

One run of the command on a disk: the request, the settings with what the command line overrides,
the generated module, and where it goes. A run always ends with a report.
-/

namespace RecordGen.Command

open DiskStep

/-! ## Output -/

/-- The command line of a request, as the generated module tells it. -/
def shownRequest (l : Located) : Text :=
  let path (p : FilePath) : Json.Value := .str (FileTree.pathText p)
  let optional (value : Option Json.Value) : Json.Value := value.getD .null
  CommandLine.shown
    [(.ofString "config", optional (l.config.map path)),
      (.ofString "formatter", optional (l.request.formatter.map fun choice => .str choice.text)),
      (.ofString "capitalize_fields", .bool l.request.capitalize),
      (.ofString "force", .bool l.request.force), (.ofString "path", path l.path),
      (.ofString "output", optional (l.output.map path))]

/-- Writes a generated module to a file as the output options say. -/
def writeOutput (base : Text) (path : FilePath) (content : Text) (o : OutputSettings) :
    DiskStep Unit := do
  let check := if o.validateBeforeWrite.isTruthy then some checkOutput else none
  if o.atomicWrite.isTruthy then
    if o.mode = .force then Write.atomically base path content check
    else Write.atomicallyIfFree base path content check
  else do
    if o.mode = .errorIfExists then Write.requireFree base path
    Write.directly base path content check

/-- A failure to write as a message: the errors of the generator, and that something exists. -/
def writeStop (failure : Failure) : Stop :=
  match failure with
  | .generator error => .reported error.message
  | .outputExists _ => .reported failure.message
  | .system .exists _ => .reported failure.message
  | _ => .escaped failure

/-! ## Runs -/

/-- What a run leaves behind beside the disk. -/
structure Report where
  exit : Nat
  /-- The two streams; a run that is not understood has none. -/
  streams : Option (Text × Text)
  escaped : Option Failure
deriving DecidableEq, Repr

namespace Report

/-- The command line is not understood. -/
def usage : Report := ⟨2, none, none⟩

def stopped : Stop → Report
  | .reported message =>
    ⟨1, some ([], messageText (Text.line (Text.ofString "Error: " ++ message))), none⟩
  | .escaped failure => ⟨1, some ([], []), some failure⟩

end Report

/-- A failure of the system to read a file. -/
def readFile (w : Workplace) (tree : FileTree) (path : FilePath) : Except Stop Bytes :=
  match tree.content path with
  | .ok bytes => .ok bytes
  | .error fault => .error (.escaped (.system fault (FileTree.shownPath w.root path)))

/-- A step on settings whose failure nothing reports. -/
def unreported {α : Type} (step : Except SettingsError α) : Except Stop α :=
  step.mapError fun error => .escaped (.settings error)

def fileName (path : FilePath) : Text := path.getLast?.getD []

def effectiveSettings (w : Workplace) (tree : FileTree) (l : Located) : Except Stop Settings := do
  let settings ←
    match l.config with
    | none => pure {}
    | some path => readSettings (fileName path) (← readFile w tree path)
  unreported (override l.request settings)

/-- The generated module of a run, with the settings that it was generated with. -/
def generated (w : Workplace) (tools : Formatter.Toolbox) (tree : FileTree) (l : Located) :
    Except Stop (Settings × Text) := do
  let settings ← effectiveSettings w tree l
  let bytes ← readFile w tree l.path
  match settings.generate tools (shownRequest l) (.octets bytes) with
  | .ok code => return (settings, code)
  | .error (.generator error) =>
    throw (.reported (fileName l.path ++ Text.ofString ": " ++ error.message))
  | .error failure => throw (.escaped failure)

/-- Writes the generated module to a file and reports that. -/
def deliverFile (w : Workplace) (path : FilePath) (settings : Settings) (code : Text)
    (disk : Disk) : Report × Disk :=
  match settings.outputFor "validate_before_write" with
  | .error error => (Report.stopped (.escaped (.settings error)), disk)
  | .ok o =>
    match (writeOutput w.root path code o).outcome disk with
    | (.ok _, disk) =>
      let note := Text.line (Text.ofString "Wrote " ++ FileTree.shownPath w.root path)
      (⟨0, some ([], messageText note), none⟩, disk)
    | (.error failure, disk) => (Report.stopped (writeStop failure), disk)

/-- Runs the command on a disk with the words behind its name. -/
def run (w : Workplace) (tools : Formatter.Toolbox) (arguments : List Text) (disk : Disk) :
    Report × Disk :=
  match (Request.ofWords? arguments).bind (locate? w disk.tree) with
  | none => (Report.usage, disk)
  | some located =>
    match generated w tools disk.tree located with
    | .error stop => (Report.stopped stop, disk)
    | .ok (settings, code) =>
      match located.output with
      | some path => deliverFile w path settings code disk
      | none =>
        let shown := streamed code
        if shown.hasSurrogate then (Report.stopped (.escaped .unencodable), disk)
        else (⟨0, some (shown, []), none⟩, disk)

end RecordGen.Command
