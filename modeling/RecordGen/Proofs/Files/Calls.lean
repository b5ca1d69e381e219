import RecordGen.Proofs.Files.Atomic

/-!
# Runs of atomic writes

Any number of atomic writes one after the other, on overlapping paths, with failures among them.
After each of them every file holds what the last write that succeeded on its place has put there,
or what it held at the start.
-/

namespace RecordGen

open DiskStep FileTree

namespace Write

variable {base : Text} {tree : FileTree} {path : FilePath} {content : Text}
  {check : Option TextCheck} {disk : Disk}

/-! ## Calls that are refused, and calls that succeed -/

theorem outcome_requireFree :
    (requireFree base path).outcome disk =
      if disk.tree.hasEntry path then (.error (.outputExists (shownPath base path)), disk)
      else (.ok (), disk) := by
  unfold requireFree
  rw [outcome_bind, outcome_look]
  cases disk.tree.hasEntry path <;> rfl

theorem outcome_atomicallyIfFree :
    (atomicallyIfFree base path content check).outcome disk =
      if disk.tree.hasEntry path then (.error (.outputExists (shownPath base path)), disk)
      else (atomically base path content check).outcome disk := by
  unfold atomicallyIfFree
  rw [outcome_bind, outcome_requireFree]
  cases disk.tree.hasEntry path <;> rfl

theorem outcome_ensureDirectory_of_hasDirectory
    (present : disk.tree.hasDirectory path = true) :
    (ensureDirectory base path).outcome disk = (.ok (), disk) := by
  obtain ⟨place, walked, directory⟩ := hasDirectory_eq_true_iff.mp present
  unfold ensureDirectory
  cases reversed : path.reverse with
  | nil =>
      rfl
  | cons name above =>
      have spelled : (name :: above).reverse = path := by rw [← reversed, List.reverse_reverse]
      have refused : FileTree.makeDirectory path disk.tree = .error .exists := by
        unfold FileTree.makeDirectory
        rw [walked]
        simp [bind, Except.bind, directory]
      unfold ensureDirectoryUpward
      simp only [spelled, outcome_tryCatch, outcome_operate, FileOperation.apply, refused,
        outcome_bind, outcome_look, present]
      rfl

theorem walk_name
    (parent : tree.hasDirectory path = true)
    (name : Text) :
    tree.walk [] (path ++ [name]) = .ok (placeOf (path ++ [name])) := by
  obtain ⟨above, walked, directory⟩ := hasDirectory_eq_true_iff.mp parent
  have reached : tree.walk [] (path ++ [name]) = .ok _ :=
    walk_concat.mpr ⟨above, walked, directory, rfl⟩
  rw [reached, ← eq_placeOf_of_walk reached]

theorem lookup_temporaryPath
    (walked : tree.walk [] (temporaryPath tree path) = .ok (placeOf (temporaryPath tree path))) :
    tree.lookup (placeOf (temporaryPath tree path)) = none := by
  cases found : tree.lookup (placeOf (temporaryPath tree path)) with
  | none =>
      rfl
  | some entry =>
      have present := hasEntry_eq_true_iff.mpr ⟨_, entry, walked, found⟩
      rw [hasEntry_temporaryPath] at present
      cases present

theorem walk_of_hasDirectory
    (parent : tree.hasDirectory path.dropLast = true) :
    tree.walk [] path = .ok (placeOf path) := by
  rcases List.eq_nil_or_concat' path with rfl | ⟨front, name, rfl⟩
  · rfl
  · rw [List.dropLast_concat] at parent
    exact walk_name parent name

theorem hasDirectory_iff_of_walk
    (walked : tree.walk [] path = .ok (placeOf path)) :
    tree.hasDirectory path = true ↔ tree.lookup (placeOf path) = some .directory := by
  rw [hasDirectory_eq_true_iff, walked]
  simp

/-- The result of writing a text over what stands at a path whose walk succeeds: the text comes first,
then its check, and then a directory is in the way. -/
def placingResult (base : Text) (path : FilePath) (content : Text) (check : Option TextCheck)
    (tree : FileTree) : Attempt Unit :=
  match Utf8.encode? content with
  | none => .error .unencodable
  | some _ => verdict check content >>= fun _ =>
    if tree.hasDirectory path then .error (.system .isDirectory (shownPath base path)) else .ok ()

/-- With a temporary file that stands, filling and moving fails only for the text or at the target. -/
theorem result_fillAndMove
    {temporary : FilePath} {old : Bytes}
    (walked : disk.tree.walk [] temporary = .ok (placeOf temporary))
    (standing : disk.tree.lookup (placeOf temporary) = some (.file old))
    (apart : placeOf temporary ≠ placeOf path)
    (walkedTarget : disk.tree.walk [] path = .ok (placeOf path)) :
    ((fillAndMove base path temporary content check).outcome disk).1 =
      placingResult base path content check disk.tree := by
  have inside : placeOf temporary ≠ [] := ne_nil_of_lookup disk.tree (by simp [standing])
  unfold fillAndMove placingResult
  cases encoded : Utf8.encode? content with
  | none =>
      simp only [fill, encoded, outcome_bind, outcome_throw]
  | some bytes =>
      -- The temporary file stands, so it can be filled, and every directory stays.
      have filled : FileTree.writeFile temporary bytes disk.tree =
          .ok (disk.tree.put (placeOf temporary) (.file bytes)) :=
        writeFile_eq_ok_iff.mpr ⟨walked, by simp [standing], rfl⟩
      obtain ⟨-, kept, -⟩ := writeFile_effect filled
      generalize next_eq : disk.tree.put (placeOf temporary) (.file bytes) = next at filled kept
      have full : next.fileAt (placeOf temporary) = some bytes := by
        rw [← next_eq, fileAt_put_file inside, Function.update_self]
      have sameTarget : next.lookup (placeOf path) = disk.tree.lookup (placeOf path) := by
        rw [← next_eq, lookup_put_of_ne apart.symm]
      have reached := walk_of_keepsDirectories kept walkedTarget
      cases judged : verdict check content with
      | error failure =>
          simp only [fill, encoded, outcome_bind, outcome_operate, FileOperation.apply, filled,
            outcome_ofAttempt]
          rfl
      | ok value =>
          simp only [fill, encoded, outcome_bind, outcome_operate, FileOperation.apply, filled,
            outcome_ofAttempt, ok_bind, Disk.push]
          -- What is left to refuse the move is a directory at the target.
          by_cases directory : disk.tree.hasDirectory path = true
          · have there : next.lookup (placeOf path) = some .directory := by
              rw [sameTarget, (hasDirectory_iff_of_walk walkedTarget).mp directory]
            have refused : FileTree.moveFile temporary path next = .error .isDirectory := by
              unfold FileTree.moveFile
              rw [find_eq_ok_iff.mpr ⟨walk_of_keepsDirectories kept walked,
                fileAt_eq_some_iff.mp full⟩, ok_bind]
              dsimp only
              rw [reached, ok_bind, there]
            rw [refused, if_pos directory]
            rfl
          · have absent : next.lookup (placeOf path) ≠ some .directory := by
              rw [sameTarget]
              exact fun there => directory ((hasDirectory_iff_of_walk walkedTarget).mpr there)
            have moved : FileTree.moveFile temporary path next = .ok _ :=
              (moveFile_eq_ok_iff full).mpr
                ⟨walk_of_keepsDirectories kept walked, reached, absent, rfl⟩
            rw [moved, if_neg directory]

/-- The part of an atomic write behind the making of directories. -/
def fillBeside (base : Text) (path : FilePath) (content : Text) (check : Option TextCheck) :
    DiskStep Unit := do
  let temporary ← look (temporaryPath · path)
  operate base (.writeFile temporary [])
  undoing (fillAndMove base path temporary content check) (operate base (.removeFile temporary))

theorem atomically_eq_fillBeside (base : Text) (path : FilePath) (content : Text)
    (check : Option TextCheck) :
    atomically base path content check = (do
      ensureDirectory base path.dropLast
      fillBeside base path content check) :=
  atomically_eq base path content check

/-- Where the directory of a path stands, the rest of an atomic write fails only for the text or at the
target: the temporary file can be made. -/
theorem result_fillBeside
    (parent : disk.tree.hasDirectory path.dropLast = true) :
    ((fillBeside base path content check).outcome disk).1 =
      placingResult base path content check disk.tree := by
  have walked : disk.tree.walk [] (temporaryPath disk.tree path) =
      .ok (placeOf (temporaryPath disk.tree path)) := by
    obtain ⟨n, spelled⟩ := exists_temporaryPath_eq disk.tree path
    rw [spelled]
    exact walk_name parent _
  have walkedTarget := walk_of_hasDirectory parent
  have nothing := lookup_temporaryPath walked
  have apart := placeOf_temporaryPath_ne disk.tree path
  rw [fillBeside, outcome_bind, outcome_look]
  dsimp only
  generalize temporaryPath disk.tree path = temporary at walked nothing apart
  have inside : placeOf temporary ≠ [] := ne_nil_of_lookup disk.tree (by simp [nothing])
  have made : FileTree.writeFile temporary [] disk.tree = .ok _ :=
    writeFile_eq_ok_iff.mpr ⟨walked, by simp [nothing], rfl⟩
  obtain ⟨-, kept, -⟩ := writeFile_effect made
  have reached := walk_of_keepsDirectories kept walkedTarget
  have sameTarget : (disk.tree.put (placeOf temporary) (.file [])).hasDirectory path =
      disk.tree.hasDirectory path := by
    rw [Bool.eq_iff_iff, hasDirectory_iff_of_walk reached, hasDirectory_iff_of_walk walkedTarget,
      lookup_put_of_ne apart.symm]
  have ends : ((fillAndMove base path temporary content check).outcome
      (disk.push (.writeFile temporary []) (disk.tree.put (placeOf temporary) (.file [])))).1 =
        placingResult base path content check (disk.tree.put (placeOf temporary) (.file [])) :=
    result_fillAndMove (walk_of_keepsDirectories kept walked) (lookup_put_self inside) apart reached
  simp only [outcome_bind, outcome_operate, FileOperation.apply, made, outcome_undoing]
  unfold placingResult at ends ⊢
  rw [← sameTarget]
  refine Eq.trans ?_ ends
  rcases (fillAndMove base path temporary content check).outcome
    (disk.push (.writeFile temporary []) _) with ⟨failure | value, behind⟩ <;> rfl

/-- A write whose directory stands, to a path that leads to no directory, of a text that can be
encoded and passes its check, succeeds. -/
theorem atomically_succeeds
    {bytes : Bytes}
    (parent : tree.hasDirectory path.dropLast = true)
    (free : tree.hasDirectory path = false)
    (encoded : Utf8.encode? content = some bytes)
    (accepted : verdict check content = .ok ()) :
    ((atomically base path content check).outcome { tree }).1 = .ok () := by
  rw [atomically_eq_fillBeside, outcome_bind, outcome_ensureDirectory_of_hasDirectory parent]
  dsimp only
  rw [result_fillBeside parent, placingResult, encoded, accepted, ok_bind, free]
  rfl

end Write

/-! ## Calls -/

/-- A call that writes a text to a path atomically. -/
structure WriteCall where
  path : FilePath
  content : Text
  /-- Whether the text has to pass the validator. -/
  validates : Bool
  validator : TextCheck
  /-- Whether something may stand at the path. -/
  replaces : Bool

/-- What has happened in a run of calls: the tree, and each call with its result, the last one
first. -/
structure WriteRun where
  tree : FileTree
  log : List (WriteCall × Attempt Unit)

namespace WriteCall

def check (call : WriteCall) : Option TextCheck :=
  if call.validates then some call.validator else none

/-- What the call does on a disk. -/
def step (base : Text) (call : WriteCall) : DiskStep Unit :=
  if call.replaces then Write.atomically base call.path call.content call.check
  else Write.atomicallyIfFree base call.path call.content call.check

/-- The result of the call on a tree, and the disk behind it. -/
def outcome (base : Text) (call : WriteCall) (tree : FileTree) : Attempt Unit × Disk :=
  (call.step base).outcome { tree }

variable {base : Text} {tree : FileTree}

/-- A call has the effect of an atomic write, also where it is refused. -/
theorem atomicEffect_outcome (base : Text) (call : WriteCall) (tree : FileTree) :
    Write.AtomicEffect tree call.path call.content call.check (call.outcome base tree).1
      (call.outcome base tree).2 := by
  have effect := Write.atomicEffect_atomically base tree call.path call.content call.check
  unfold outcome step
  by_cases replaces : call.replaces = true
  · simpa only [replaces, ↓reduceIte] using effect
  · simp only [replaces, Bool.false_eq_true, ↓reduceIte, Write.outcome_atomicallyIfFree]
    by_cases taken : tree.hasEntry call.path = true
    · simp only [taken, ↓reduceIte]
      exact {
        moments := ⟨[], fileAt_eq_none_of_directory rfl,
          (Write.hasSameFiles_start tree).moments _ _ _⟩
        failed := fun _ _ => rfl
        succeeded := fun success => by cases success
        accepted := fun success => by cases success }
    · simpa only [taken, Bool.false_eq_true, ↓reduceIte] using effect

theorem verdict_check (call : WriteCall) :
    Write.verdict call.check call.content = .ok () ↔
      (call.validates = true → call.validator call.content = .ok ()) := by
  unfold check Write.verdict
  cases call.validates <;> simp

/-- A call that may not replace is refused where something stands, before it does anything. -/
theorem outcome_of_hasEntry
    {call : WriteCall}
    (careful : call.replaces = false)
    (taken : tree.hasEntry call.path = true) :
    call.outcome base tree = (.error (.outputExists (shownPath base call.path)), { tree }) := by
  simp [outcome, step, careful, Write.outcome_atomicallyIfFree, taken]

theorem outcome_eq_ok
    {call : WriteCall}
    (parent : tree.hasDirectory call.path.dropLast = true)
    (free : tree.hasDirectory call.path = false)
    (encodable : call.content.hasSurrogate = false)
    (accepted : call.validates = true → call.validator call.content = .ok ())
    (permitted : call.replaces = true ∨ tree.hasEntry call.path = false) :
    (call.outcome base tree).1 = .ok () := by
  have succeeds : ((Write.atomically base call.path call.content call.check).outcome { tree }).1 =
      .ok () :=
    Write.atomically_succeeds parent free (Write.encode?_eq_some_iff.mpr ⟨encodable, rfl⟩)
      ((verdict_check call).mpr accepted)
  unfold outcome step
  by_cases replaces : call.replaces = true
  · simpa only [replaces, ↓reduceIte] using succeeds
  · have unused : tree.hasEntry call.path = false := permitted.resolve_left replaces
    simpa only [replaces, Bool.false_eq_true, ↓reduceIte, Write.outcome_atomicallyIfFree, unused]
      using succeeds

end WriteCall

/-! ## Runs -/

namespace WriteRun

def after (base : Text) (run : WriteRun) (call : WriteCall) : WriteRun :=
  let (result, disk) := call.outcome base run.tree
  ⟨disk.tree, (call, result) :: run.log⟩

def ofCalls (base : Text) (start : FileTree) (calls : List WriteCall) : WriteRun :=
  calls.foldl (after base) ⟨start, []⟩

/-- The call succeeded, and led to a place. -/
def hasWritten (place : FilePath) (entry : WriteCall × Attempt Unit) : Bool :=
  entry.2.isOk && placeOf entry.1.path = place

/-- What the file at a place should hold after some calls: the text of the last one that succeeded
there, in UTF-8, or else what it held at the start. -/
def contentAt (start : FileTree) (log : List (WriteCall × Attempt Unit)) (place : FilePath) :
    Option Bytes :=
  match log.find? (hasWritten place) with
  | some (call, _) => some (Utf8.encode call.content)
  | none => start.fileAt place

/-- The files are those that the calls tell. -/
def Holds (start : FileTree) (run : WriteRun) : Prop :=
  ∀ place, run.tree.fileAt place = contentAt start run.log place

variable {base : Text} {start : FileTree} {run : WriteRun}

/-- One more call keeps the files and the calls in step. -/
theorem holds_after
    (call : WriteCall)
    (holds : Holds start run) :
    Holds start (run.after base call) := by
  have effect := call.atomicEffect_outcome base run.tree
  unfold after
  cases ended : call.outcome base run.tree with
  | mk result disk =>
      rw [ended] at effect
      intro place
      cases result with
      | error failure =>
          have passed : hasWritten place (call, .error failure) = false := rfl
          simp only [contentAt, List.find?_cons, passed, effect.failed failure rfl]
          exact holds place
      | ok value =>
          obtain ⟨bytes, encoded, files, -⟩ := effect.succeeded rfl
          simp only [files]
          -- Calls are compared by place: two paths can lead to one file.
          by_cases here : placeOf call.path = place
          · have written : hasWritten place (call, .ok ()) = true := by
              simp [hasWritten, here, Except.isOk, Except.toBool]
            obtain ⟨-, rfl⟩ := Write.encode?_eq_some_iff.mp encoded
            simp only [contentAt, List.find?_cons, written, here, Function.update_self]
          · have passed : hasWritten place (call, .ok ()) = false := by
              simp [hasWritten, here]
            simp only [contentAt, List.find?_cons, passed, Function.update_of_ne (Ne.symm here)]
            exact holds place

theorem holds_ofCalls (base : Text) (start : FileTree) (calls : List WriteCall) :
    Holds start (ofCalls base start calls) := by
  have run : ∀ run, Holds start run → Holds start (calls.foldl (after base) run) := by
    induction calls with
    | nil =>
        exact fun run holds => holds
    | cons call rest inductionHypothesis =>
        exact fun run holds => inductionHypothesis _ (holds_after call holds)
  exact run ⟨start, []⟩ fun place => rfl

/-- Atomic writes over whole runs. After any calls every file holds the text of the last call that
succeeded on its place, or what it held at the start. A further call that fails changes no file. It
succeeds only with a text that can be encoded and that the validator accepts, if it is asked, and
never on a path that exists and may not be replaced; it does succeed where nothing stands in its
way. At every moment of the call its target holds the whole old content or the whole new one. -/
theorem writes_whole_or_not_at_all
    (base : Text) (start : FileTree) (calls : List WriteCall) (call : WriteCall) :
    let tree := (ofCalls base start calls).tree
    let result := (call.outcome base tree).1
    let disk := (call.outcome base tree).2
    (∀ place, tree.fileAt place = contentAt start (ofCalls base start calls).log place) ∧
      (∀ failure, result = .error failure → ∀ place, disk.tree.fileAt place = tree.fileAt place) ∧
      (result = .ok () → call.content.hasSurrogate = false ∧
        (call.validates = true → call.validator call.content = .ok ())) ∧
      (call.replaces = false → tree.hasEntry call.path = true → ∃ failure, result = .error failure) ∧
      (tree.hasDirectory call.path.dropLast = true → tree.hasDirectory call.path = false →
        call.content.hasSurrogate = false →
        (call.validates = true → call.validator call.content = .ok ()) →
        (call.replaces = true ∨ tree.hasEntry call.path = false) → result = .ok ()) ∧
      ∀ point ∈ disk.points,
        point.fileAt (placeOf call.path) = tree.fileAt (placeOf call.path) ∨
          call.content.hasSurrogate = false ∧
            point.fileAt (placeOf call.path) = some (Utf8.encode call.content) := by
  intro tree result disk
  have effect := call.atomicEffect_outcome base tree
  have encoding {bytes : Bytes} (encoded : Utf8.encode? call.content = some bytes) :
      call.content.hasSurrogate = false ∧ bytes = Utf8.encode call.content := by
    unfold Utf8.encode? at encoded
    split at encoded
    · cases encoded
    · rename_i plain
      exact ⟨by simpa using plain, (Option.some.inj encoded).symm⟩
  -- What the calls so far have left is a lemma about runs; the rest is the effect of this call.
  refine ⟨holds_ofCalls base start calls, fun failure failed place => ?_, fun success => ?_,
    fun careful taken => ⟨_, congrArg Prod.fst (WriteCall.outcome_of_hasEntry careful taken)⟩,
    fun parent free encodable accepted permitted =>
      WriteCall.outcome_eq_ok parent free encodable accepted permitted, fun point member => ?_⟩
  · rw [effect.failed failure failed]
  · obtain ⟨bytes, encoded, -⟩ := effect.succeeded success
    exact ⟨(encoding encoded).1, call.verdict_check.mp (effect.accepted success)⟩
  · obtain ⟨temporary, -, moments⟩ := effect.moments
    rcases (moments point member).whole with old | ⟨bytes, encoded, new⟩
    · exact Or.inl old
    · obtain ⟨plain, rfl⟩ := encoding encoded
      exact Or.inr ⟨plain, new⟩

end WriteRun
end RecordGen
