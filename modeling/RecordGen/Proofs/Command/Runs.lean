import RecordGen.Proofs.Command.Settings
import RecordGen.Proofs.Files.Calls

/-!
# Runs of the command

What one run of the command does to the files of its disk. A run stops before it writes, and leaves
the disk as it is, or it makes one write. An atomic write has all of its effect or none, so a run
that ends with an error changes no file.
-/

namespace RecordGen.Command

open DiskStep FileTree

variable {w : Workplace} {tools : Formatter.Toolbox} {arguments : List Text} {tree : FileTree}
  {disk : Disk} {request : Request} {l : Located} {s : Settings} {o : OutputSettings}
  {path : FilePath} {code : Text}

/-! ## Requests -/

theorem locate_of_existing?
    {argument : Text}
    (found : existing? w tree argument = some path) :
    w.locate argument = some path := by
  obtain ⟨located, isLocated, rest⟩ := Option.bind_eq_some_iff.mp found
  obtain ⟨-, same⟩ := Option.ite_none_right_eq_some.mp rest
  rw [isLocated, same]

theorem located_of_locate?
    (found : locate? w tree request = some l) :
    l.request = request ∧ l.config = request.config.bind w.locate ∧
      l.output = request.output.bind w.locate := by
  unfold locate? at found
  cases config : request.config with
  | none =>
      cases output : request.output with
      | none =>
          simp only [config, output, Option.bind_eq_bind, Option.bind_some, Option.bind_none,
            Option.bind_eq_some_iff, Option.ite_none_left_eq_some, Option.some.injEq] at found
          obtain ⟨path, -, -, rfl⟩ := found
          exact ⟨rfl, rfl, rfl⟩
      | some argument =>
          simp only [config, output, Option.bind_eq_bind, Option.bind_some, Option.bind_none,
            Option.bind_eq_some_iff, Option.ite_none_left_eq_some, Option.some.injEq] at found
          obtain ⟨path, -, -, target, located, -, rfl⟩ := found
          exact ⟨rfl, rfl, located.symm⟩
  | some settings =>
      cases output : request.output with
      | none =>
          simp only [config, output, Option.bind_eq_bind, Option.bind_some, Option.bind_none,
            Option.bind_eq_some_iff, Option.map_eq_some_iff, Option.ite_none_left_eq_some,
            Option.some.injEq, exists_exists_and_eq_and] at found
          obtain ⟨file, present, path, -, -, rfl⟩ := found
          exact ⟨rfl, (locate_of_existing? present).symm, rfl⟩
      | some argument =>
          simp only [config, output, Option.bind_eq_bind, Option.bind_some, Option.bind_none,
            Option.bind_eq_some_iff, Option.map_eq_some_iff, Option.ite_none_left_eq_some,
            Option.some.injEq, exists_exists_and_eq_and] at found
          obtain ⟨file, present, path, -, -, target, located, -, rfl⟩ := found
          exact ⟨rfl, (locate_of_existing? present).symm, located.symm⟩

/-! ## Up to the write -/

/-- A run that has generated code: its request, the settings in force, and the code that the schema
gives with them. -/
structure Generates (w : Workplace) (tools : Formatter.Toolbox) (arguments : List Text)
    (tree : FileTree) (l : Located) (s : Settings) (code : Text) : Prop where
  understood : Request.ofWords? arguments = some l.request
  located : locate? w tree l.request = some l
  settings : effectiveSettings w tree l = .ok s
  code : ∃ data, tree.content l.path = .ok data ∧
    s.generate tools (shownRequest l) (.octets data) = .ok code

theorem generates_of_generated
    (located : (Request.ofWords? arguments).bind (locate? w tree) = some l)
    (done : generated w tools tree l = .ok (s, code)) :
    Generates w tools arguments tree l s code := by
  obtain ⟨request, understood, found⟩ := Option.bind_eq_some_iff.mp located
  obtain ⟨rfl, -⟩ := located_of_locate? found
  unfold generated at done
  obtain ⟨settings, effective, rest⟩ := bind_eq_ok.mp done
  obtain ⟨data, read, last⟩ := bind_eq_ok.mp rest
  cases made : settings.generate tools (shownRequest l) (.octets data) with
  | error failure =>
      cases failure <;> simp [made] at last
  | ok text =>
      simp only [made] at last
      cases last
      exact ⟨understood, found, effective, data, content_of_readFile read, made⟩

/-- What a run can do: it stops or prints, and the disk stays as it is, or it makes one write. -/
theorem run_cases (w : Workplace) (tools : Formatter.Toolbox) (arguments : List Text) (disk : Disk) :
    ((run w tools arguments disk).2 = disk ∧
        ((run w tools arguments disk).1.exit = 0 →
          ∃ l s code, Generates w tools arguments disk.tree l s code ∧ l.output = none)) ∨
      ∃ l s code path o, Generates w tools arguments disk.tree l s code ∧ l.output = some path ∧
        s.output = .options o ∧
        ((run w tools arguments disk).1.exit = 0 ↔
          ((writeOutput w.root path code o).outcome disk).1 = .ok ()) ∧
        (run w tools arguments disk).2 = ((writeOutput w.root path code o).outcome disk).2 := by
  have stopped (stop : Stop) : (Report.stopped stop).exit ≠ 0 := by
    cases stop <;> simp [Report.stopped]
  unfold run
  cases located : (Request.ofWords? arguments).bind (locate? w disk.tree) with
  | none =>
      exact Or.inl ⟨rfl, fun zero => by cases zero⟩
  | some l =>
      dsimp only
      cases done : generated w tools disk.tree l with
      | error stop =>
          exact Or.inl ⟨rfl, fun zero => absurd zero (stopped stop)⟩
      | ok result =>
          obtain ⟨s, code⟩ := result
          have generates := generates_of_generated located done
          dsimp only
          -- Only behind this point the run can touch the disk.
          cases output : l.output with
          | none =>
              have printed : ∃ l s code,
                  Generates w tools arguments disk.tree l s code ∧ l.output = none :=
                ⟨l, s, code, generates, output⟩
              dsimp only
              refine Or.inl ⟨?_, fun _ => printed⟩
              split <;> rfl
          | some path =>
              dsimp only
              unfold deliverFile
              cases options : s.outputFor "validate_before_write" with
              | error error =>
                  exact Or.inl ⟨rfl, fun zero => absurd zero (stopped _)⟩
              | ok o =>
                  have given : s.output = .options o := Group.require_eq_ok_iff.mp options
                  refine Or.inr ⟨l, s, code, path, o, generates, output, given, ?_⟩
                  dsimp only
                  rcases (writeOutput w.root path code o).outcome disk with ⟨failure | value, behind⟩
                  · exact ⟨by simp [stopped], rfl⟩
                  · exact ⟨iff_of_true rfl rfl, rfl⟩

/-! ## The write -/

theorem checkOutput_eq_ok_iff : checkOutput code = .ok () ↔ Source.check code = .ok () := by
  unfold checkOutput
  cases checked : Source.check code with
  | ok value =>
      simp
  | error fault =>
      cases fault <;> simp [Attempt.refuse]

/-- The call of the atomic writer that the output options ask for. -/
def outputCall (path : FilePath) (code : Text) (o : OutputSettings) : WriteCall where
  path := path
  content := code
  validates := o.validateBeforeWrite.isTruthy
  validator := checkOutput
  replaces := o.mode = .force

theorem writeOutput_eq_step
    (base : Text)
    (atomic : o.atomicWrite.isTruthy = true) :
    writeOutput base path code o = (outputCall path code o).step base := by
  unfold writeOutput WriteCall.step WriteCall.check outputCall
  simp [atomic]

variable {after : FileTree}

/-- What a run has delivered: its output holds the code, which is accepted if it has to be, and all
other files are as they were. -/
structure Delivers (tree : FileTree) (s : Settings) (path : FilePath) (code : Text)
    (after : FileTree) : Prop where
  encodable : code.hasSurrogate = false
  content : after.content path = .ok (Utf8.encode code)
  accepted : ∀ o, s.output = .options o → o.validateBeforeWrite.isTruthy = true →
    Source.check code = .ok ()
  others : ∀ place, place ≠ placeOf path → after.fileAt place = tree.fileAt place

theorem delivers_of_writeOutput
    {base : Text}
    (options : s.output = .options o)
    (atomic : o.atomicWrite.isTruthy = true)
    (succeeds : ((writeOutput base path code o).outcome { tree }).1 = .ok ()) :
    Delivers tree s path code ((writeOutput base path code o).outcome { tree }).2.tree := by
  rw [writeOutput_eq_step base atomic] at succeeds ⊢
  have effect := (outputCall path code o).atomicEffect_outcome base tree
  obtain ⟨bytes, encoded, files, content⟩ := effect.succeeded succeeds
  have passed := (outputCall path code o).verdict_check.mp (effect.accepted succeeds)
  obtain ⟨plain, rfl⟩ := Write.encode?_eq_some_iff.mp encoded
  refine ⟨plain, content, ?_, ?_⟩
  · intro given same validates
    rw [options] at same
    cases same
    exact checkOutput_eq_ok_iff.mp (passed validates)
  · intro place other
    have changed := congrFun files place
    exact changed.trans (Function.update_of_ne other _ _)

/-! ## All or nothing -/

/-- A run whose write is atomic is all or nothing. If it exits with zero, its output holds the code
that the schema gives with the settings in force, and no other file has changed; without an output
no file has changed at all, and neither has one if the run ends in any other way. -/
theorem run_all_or_nothing
    (w : Workplace) (tools : Formatter.Toolbox) (arguments : List Text) (tree : FileTree)
    (atomic : ∀ l s o, (Request.ofWords? arguments).bind (locate? w tree) = some l →
      effectiveSettings w tree l = .ok s → s.output = .options o →
        o.atomicWrite.isTruthy = true) :
    let report := (run w tools arguments { tree }).1
    let after := (run w tools arguments { tree }).2.tree
    (report.exit = 0 → ∃ l s data code,
      Request.ofWords? arguments = some l.request ∧ locate? w tree l.request = some l ∧
      l.output = l.request.output.bind w.locate ∧
      (∃ base, FileSettings tree l.config base ∧ Overridden l.request base s) ∧
      tree.content l.path = .ok data ∧
      s.generate tools (shownRequest l) (.octets data) = .ok code ∧
      (∀ path, l.output = some path → Delivers tree s path code after) ∧
      (l.output = none → ∀ place, after.fileAt place = tree.fileAt place)) ∧
    (report.exit ≠ 0 → ∀ place, after.fileAt place = tree.fileAt place) := by
  intro report after
  -- A run prints what it has made, or fails, without a write; or it is the one write of the output.
  rcases run_cases w tools arguments { tree } with
    ⟨same, printed⟩ | ⟨l, s, code, path, o, generates, output, options, exits, wrote⟩
  · have unchanged : ∀ place, after.fileAt place = tree.fileAt place := by
      intro place
      change (run w tools arguments { tree }).2.tree.fileAt place = _
      rw [same]
    refine ⟨fun zero => ?_, fun _ => unchanged⟩
    obtain ⟨l, s, code, generates, output⟩ := printed zero
    obtain ⟨data, read, made⟩ := generates.code
    refine ⟨l, s, data, code, generates.understood, generates.located,
      (located_of_locate? generates.located).2.2, overridden_of_effectiveSettings generates.settings,
      read, made, fun path given => ?_, fun _ => unchanged⟩
    rw [output] at given
    cases given
  · have isAtomic : o.atomicWrite.isTruthy = true := by
      refine atomic l s o ?_ generates.settings options
      rw [generates.understood, Option.bind_some, generates.located]
    obtain ⟨data, read, made⟩ := generates.code
    have behind : after = ((writeOutput w.root path code o).outcome { tree }).2.tree := by
      change (run w tools arguments { tree }).2.tree = _
      rw [wrote]
    refine ⟨fun zero => ?_, fun nonzero => ?_⟩
    · have delivers := delivers_of_writeOutput options isAtomic (exits.mp zero)
      refine ⟨l, s, data, code, generates.understood, generates.located,
        (located_of_locate? generates.located).2.2, overridden_of_effectiveSettings generates.settings,
        read, made, fun given same => ?_, fun without => ?_⟩
      · rw [output] at same
        cases same
        rw [behind]
        exact delivers
      · rw [output] at without
        cases without
    · have effect := (outputCall path code o).atomicEffect_outcome w.root tree
      intro place
      cases ended : ((writeOutput w.root path code o).outcome { tree }).1 with
      | ok value =>
          exact absurd (exits.mpr ended) nonzero
      | error failure =>
          rw [writeOutput_eq_step w.root isAtomic] at ended behind
          rw [behind]
          exact congrFun (effect.failed failure ended) place

/-- Where the examples of runs take place. -/
def examplePlace : Workplace := ⟨.ofString "/work", []⟩

/-- A tree with nothing but a schema. -/
def freshTree : FileTree :=
  ⟨[([.ofString "schema.json"], .file (Utf8.encode (.ofString
    "\x7b\"$id\": \"point\", \"properties\": \x7b\"x\": \x7b\"type\": \"integer\"\x7d\x7d\x7d")))]⟩

/-- The words that ask for an output. -/
def freshWords : List Text := [.ofString "schema.json", .ofString "out.py"]

/-- What those words ask for in that tree. -/
def freshLocated : Located :=
  ⟨⟨none, none, false, false, .ofString "schema.json", some (.ofString "out.py")⟩, none,
    [.ofString "schema.json"], some [.ofString "out.py"]⟩

theorem run_all_or_nothing_point :
    (run examplePlace .full freshWords { tree := freshTree }).1.exit = 0 ∧
      ∃ s code, Delivers freshTree s [.ofString "out.py"] code
        (run examplePlace .full freshWords { tree := freshTree }).2.tree := by
  have located : (Request.ofWords? freshWords).bind (locate? examplePlace freshTree) =
      some freshLocated := by decide +kernel
  have atomic : ∀ l s o,
      (Request.ofWords? freshWords).bind (locate? examplePlace freshTree) = some l →
      effectiveSettings examplePlace freshTree l = .ok s → s.output = .options o →
        o.atomicWrite.isTruthy = true := by
    intro l s o found effective options
    obtain rfl := Option.some.inj (located.symm.trans found)
    obtain ⟨base, file, formatter, output, -, chosen, rfl⟩ :=
      overridden_of_effectiveSettings effective
    cases file
    cases chosen
    cases options
    decide
  have exits : (run examplePlace .full freshWords { tree := freshTree }).1.exit = 0 := by
    -- The run is evaluated from the characters of the document, not from its literal.
    rw [freshTree, Text.ofString_ofList, Text.ofString_ofList]
    decide +kernel
  obtain ⟨l, s, data, code, understood, found, -, -, -, -, delivers, -⟩ :=
    (run_all_or_nothing examplePlace .full freshWords freshTree atomic).1 exits
  have same : some freshLocated = some l := by
    rw [← located, understood, Option.bind_some, found]
  obtain rfl := Option.some.inj same
  exact ⟨exits, s, code, delivers _ rfl⟩

/-! ## Files that stand -/

/-- The document of the settings file that a request names. -/
def configDocument? (w : Workplace) (tree : FileTree) (request : Request) : Option Json.Value := do
  let path ← request.config.bind w.locate
  let bytes ← (tree.content path).toOption
  settingsDocument? bytes

/-- Without leave to replace it an output that stands is not written, if the write is atomic or the
mode is the one that refuses. -/
theorem outcome_writeOutput_of_hasEntry
    {base : Text}
    (standing : tree.hasEntry path = true)
    (careful : o.mode = .errorIfExists ∨ o.atomicWrite.isTruthy = true ∧ o.mode ≠ .force) :
    (writeOutput base path code o).outcome { tree } =
      (.error (.outputExists (shownPath base path)), { tree }) := by
  by_cases atomic : o.atomicWrite.isTruthy = true
  · have kept : o.mode ≠ .force := by
      rcases careful with refusing | ⟨-, other⟩
      · simp [refusing]
      · exact other
    have stays : (outputCall path code o).replaces = false := by simp [outputCall, kept]
    rw [writeOutput_eq_step base atomic]
    exact WriteCall.outcome_of_hasEntry stays standing
  · have refusing : o.mode = .errorIfExists := by
      rcases careful with refusing | ⟨isAtomic, -⟩
      · exact refusing
      · exact absurd isAtomic atomic
    unfold writeOutput
    simp [atomic, refusing, outcome_bind, Write.outcome_requireFree, standing]

theorem mode_of_effectiveSettings
    (located : locate? w tree request = some l)
    (unforced : request.force = false)
    (effective : effectiveSettings w tree l = .ok s)
    (options : s.output = .options o) :
    o = {} ∨ ∃ document members, configDocument? w tree request = some document ∧
      Settings.outputMembers? document = some members ∧ OutputSettings.ofMembers members = .ok o := by
  obtain ⟨base, file, formatter, output, -, chosen, rfl⟩ :=
    overridden_of_effectiveSettings effective
  obtain ⟨rfl, config, -⟩ := located_of_locate? located
  have given : base.output = .options o := by
    rw [unforced] at chosen
    cases chosen
    exact options
  cases named : l.config with
  | none =>
      rw [named] at file
      cases file
      exact Or.inl (Group.options.inj given).symm
  | some path =>
      rw [named] at file config
      cases file with
      | document found held made =>
        rename_i bytes document
        have single := namesOnce_of_settingsDocument held
        rcases Settings.output_of_ofValue single made given with default | ⟨members, inside, read⟩
        · exact Or.inl default
        · refine Or.inr ⟨document, members, ?_, inside, read⟩
          simp [configDocument?, ← config, found, held, Except.toOption]

/-- No overwriting without force. A run without the flag, whose settings file does not name the mode
that replaces files, leaves the whole disk as it is if its output stands. The settings file may name
no mode, or a mode that is a text; a mode of another kind is safe with atomic writes only. -/
theorem run_keeps_standing_output
    (understood : Request.ofWords? arguments = some request)
    (unforced : request.force = false)
    (output : request.output.bind w.locate = some path)
    (standing : tree.hasEntry path = true)
    (unforcedByFile : ∀ document, configDocument? w tree request = some document →
      Settings.outputOption? document "mode" ≠ some (.str (.ofString "force")))
    (named : ∀ document mode, configDocument? w tree request = some document →
      Settings.outputOption? document "mode" = some mode →
        (∃ t, mode = .str t) ∨
          ((Settings.outputOption? document "atomic_write").getD (.bool true)).isTruthy = true) :
    (run w tools arguments { tree }).2 = { tree } ∧ (run w tools arguments { tree }).1.exit ≠ 0 := by
  rcases run_cases w tools arguments { tree } with
    ⟨same, printed⟩ | ⟨l, s, code, target, o, generates, led, options, exits, wrote⟩
  · refine ⟨same, fun zero => ?_⟩
    obtain ⟨l, s, code, generates, without⟩ := printed zero
    obtain rfl := Option.some.inj (understood.symm.trans generates.understood)
    rw [(located_of_locate? generates.located).2.2, output] at without
    cases without
  · obtain rfl := Option.some.inj (understood.symm.trans generates.understood)
    have here : path = target := by
      rw [(located_of_locate? generates.located).2.2, output] at led
      exact Option.some.inj led
    subst here
    -- Only a mode that is no text could get past the refusal, and those are written atomically.
    have careful : o.mode = .errorIfExists ∨ o.atomicWrite.isTruthy = true ∧ o.mode ≠ .force := by
      rcases mode_of_effectiveSettings generates.located unforced generates.settings options with
        rfl | ⟨document, members, held, inside, read⟩
      · exact Or.inl rfl
      · obtain ⟨forced, other, atomic⟩ := Settings.mode_of_ofMembers read
        have option (name : String) : Settings.outputOption? document name =
            members.get? (.ofString name) := by
          simp [Settings.outputOption?, inside]
        cases mode : o.mode with
        | errorIfExists =>
            exact Or.inl rfl
        | force =>
            exact absurd ((option "mode").trans (forced mode)) (unforcedByFile document held)
        | other value =>
            obtain ⟨given, noText⟩ := other value mode
            have isAtomic := (named document value held ((option "mode").trans given)).resolve_left
              fun ⟨t, isText⟩ => noText t isText
            rw [option "atomic_write", ← atomic] at isAtomic
            exact Or.inr ⟨isAtomic, by simp⟩
    have kept : (writeOutput w.root path code o).outcome { tree } = _ :=
      outcome_writeOutput_of_hasEntry standing careful
    rw [kept] at exits wrote
    refine ⟨wrote, fun zero => ?_⟩
    cases exits.mp zero

/-- A tree with a schema, an output that stands, and settings that switch atomic writes off and give
an output mode. -/
def standingTree (mode : String) : FileTree :=
  ⟨[([.ofString "schema.json"], .file (Utf8.encode (.ofString "\x7b\x7d"))),
    ([.ofString "out.py"], .file (Utf8.encode (.ofString "keep = True\n"))),
    ([.ofString "config.json"], .file (Utf8.encode (Text.ofString "\x7b\"output\": \x7b\"mode\": " ++
      .ofString mode ++ .ofString ", \"atomic_write\": false\x7d\x7d")))]⟩

/-- The request for the output of such a tree. -/
def standingRequest : Request :=
  ⟨some (.ofString "config.json"), none, false, false, .ofString "schema.json",
    some (.ofString "out.py")⟩

def standingWords : List Text :=
  [.ofString "schema.json", .ofString "out.py", .ofString "--config", .ofString "config.json"]

/-- The document of the settings file of such a tree. -/
def standingDocument (mode : Json.Value) : Json.Value :=
  .obj [(.ofString "output",
    .obj [(.ofString "mode", mode), (.ofString "atomic_write", .bool false)])]

/-- The settings name the mode that refuses. -/
def refusingTree : FileTree := standingTree "\"error\""

theorem run_keeps_standing_output_error :
    (run examplePlace .full standingWords { tree := refusingTree }).2 = { tree := refusingTree } ∧
      (run examplePlace .full standingWords { tree := refusingTree }).1.exit ≠ 0 := by
  have held : configDocument? examplePlace refusingTree standingRequest =
      some (standingDocument (.str (.ofString "error"))) := by decide +kernel
  have understood : Request.ofWords? standingWords = some standingRequest := by decide +kernel
  have output : standingRequest.output.bind examplePlace.locate = some [.ofString "out.py"] := by
    decide +kernel
  have standing : refusingTree.hasEntry [.ofString "out.py"] = true := by decide +kernel
  have mode : Settings.outputOption? (standingDocument (.str (.ofString "error"))) "mode" =
      some (.str (.ofString "error")) := by decide +kernel
  have unforced : Json.Value.str (.ofString "error") ≠ .str (.ofString "force") := by
    decide +kernel
  apply run_keeps_standing_output understood rfl output standing
  · intro document found
    obtain rfl := Option.some.inj (held.symm.trans found)
    rw [mode]
    exact fun same => unforced (Option.some.inj same)
  · intro document value found given
    obtain rfl := Option.some.inj (held.symm.trans found)
    rw [mode] at given
    exact Or.inl ⟨_, (Option.some.inj given).symm⟩

/-- A mode that is no text replaces a file without force, where the write is not atomic. -/
theorem run_replaces_standing_output_null :
    let tree := standingTree "null"
    Request.ofWords? standingWords = some standingRequest ∧ standingRequest.force = false ∧
      configDocument? examplePlace tree standingRequest = some (standingDocument .null) ∧
      Settings.outputOption? (standingDocument .null) "mode" ≠ some (.str (.ofString "force")) ∧
      tree.fileAt [.ofString "out.py"] = some (Utf8.encode (.ofString "keep = True\n")) ∧
      (run examplePlace .full standingWords { tree }).2.tree.fileAt [.ofString "out.py"] ≠
        some (Utf8.encode (.ofString "keep = True\n")) := by
  decide +kernel

end RecordGen.Command
