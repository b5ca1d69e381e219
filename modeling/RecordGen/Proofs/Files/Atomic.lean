import RecordGen.Files.Write
import RecordGen.Proofs.Files.Disk
import RecordGen.Proofs.Files.Tree
import Mathlib.Data.List.Nodup
import Mathlib.Data.List.Perm.Subperm

/-!
# Atomic writes

What an atomic write does to the files of a tree. It first makes directories, which change no file,
then fills a temporary file at which nothing stood, and moves it. Until the move the target is as it
was, the move puts the whole content there, and a failure at any point ends with the files of before.
-/

namespace RecordGen.Write

open DiskStep FileTree

variable {base : Text} {tree : FileTree} {path temporary target : FilePath} {content : Text}
  {check : Option TextCheck} {disk : Disk}

/-! ## Directories -/

/-- What a new directory keeps, the making of a directory with those above it keeps. -/
theorem keeps_ensureDirectory
    {invariant : Disk → Prop}
    (kept : ∀ disk path tree, invariant disk → FileTree.makeDirectory path disk.tree = .ok tree →
      invariant (disk.push (.makeDirectory path) tree))
    (base : Text) (path : FilePath) :
    Keeps invariant (ensureDirectory base path) := by
  have make (path : FilePath) : Keeps invariant (operate base (.makeDirectory path)) :=
    keeps_operate fun disk tree => kept disk path tree
  have settle (path : FilePath) (failure : Failure) : Keeps invariant
      (do if ← look (·.hasDirectory path) then pure () else throw failure) := by
    refine keeps_bind (keeps_look _) fun present => ?_
    cases present with
    | true => exact keeps_pure ()
    | false => exact keeps_throw failure
  unfold ensureDirectory
  induction path.reverse with
  | nil =>
      exact keeps_pure ()
  | cons name above inductionHypothesis =>
      unfold ensureDirectoryUpward
      refine keeps_tryCatch (make _) fun failure => ?_
      split
      · refine keeps_bind inductionHypothesis fun _ => keeps_tryCatch (make _) fun failure => ?_
        split
        · exact keeps_throw _
        · exact settle _ failure
      · exact settle _ failure

/-- In all that a disk has been, the files are those of a tree, and its directories stand. -/
def HasSameFiles (tree : FileTree) (disk : Disk) : Prop :=
  ∀ point ∈ disk.points, point.fileAt = tree.fileAt ∧ KeepsDirectories tree point

theorem hasSameFiles_start (tree : FileTree) : HasSameFiles tree { tree } := by
  intro point member
  obtain rfl := List.mem_singleton.mp member
  exact ⟨rfl, .refl point⟩

theorem keeps_hasSameFiles_ensureDirectory
    (tree : FileTree) (base : Text) (path : FilePath) :
    Keeps (HasSameFiles tree) (ensureDirectory base path) := by
  refine keeps_ensureDirectory (fun disk path next same made => ?_) base path
  obtain ⟨files, directories⟩ := makeDirectory_effect made
  obtain ⟨filesBefore, directoriesBefore⟩ := same disk.tree disk.tree_mem_points
  rw [HasSameFiles, Disk.points_push, List.forall_mem_cons]
  exact ⟨⟨files.trans filesBefore, directoriesBefore.trans directories⟩, same⟩

/-! ## Temporary files -/

theorem ofChar_injective : Function.Injective CodePoint.ofChar := by
  intro c d same
  have numbers : (CodePoint.ofChar c).val = (CodePoint.ofChar d).val := by rw [same]
  exact Char.toNat_inj.mp numbers

theorem ofNat_injective : Function.Injective Text.ofNat := by
  intro m n same
  have digits : Nat.toDigits 10 m = Nat.toDigits 10 n :=
    (List.map_injective_iff.mpr ofChar_injective) same
  calc
    m = Nat.ofDigitChars 10 (Nat.toDigits 10 m) 0 :=
      (Nat.ofDigitChars_toDigits (by decide) (by decide)).symm
    _ = Nat.ofDigitChars 10 (Nat.toDigits 10 n) 0 := by rw [digits]
    _ = n := Nat.ofDigitChars_toDigits (by decide) (by decide)

theorem temporaryName_injective (name : Text) : Function.Injective (temporaryName name) := by
  intro m n same
  unfold temporaryName at same
  exact ofNat_injective (List.append_cancel_left (List.append_cancel_right same))

theorem length_temporaryName (name : Text) (n : Nat) :
    (temporaryName name n).length = name.length + (Text.ofNat n).length + 6 := by
  have point : (Text.ofString ".").length = 1 := by decide
  have ending : (Text.ofString ".tmp").length = 4 := by decide
  simp only [temporaryName, List.length_append, point, ending]
  omega

theorem temporaryName_ne (name : Text) (n : Nat) : temporaryName name n ≠ name := by
  intro same
  have lengths := congrArg List.length same
  rw [length_temporaryName] at lengths
  omega

theorem temporaryName_ne_upward (name : Text) (n : Nat) : temporaryName name n ≠ upward := by
  intro same
  have lengths := congrArg List.length same
  have two : upward.length = 2 := by decide
  rw [length_temporaryName, two] at lengths
  omega

theorem exists_temporaryPath_eq (tree : FileTree) (path : FilePath) :
    ∃ n, temporaryPath tree path =
      path.dropLast ++ [temporaryName (path.getLast?.getD []) n] :=
  ⟨_, rfl⟩

theorem placeOf_temporaryPath_ne (tree : FileTree) (path : FilePath) :
    placeOf (temporaryPath tree path) ≠ placeOf path := by
  obtain ⟨n, spelled⟩ := exists_temporaryPath_eq tree path
  rw [spelled, placeOf, placeFrom_concat, if_neg (temporaryName_ne_upward _ n)]
  rcases List.eq_nil_or_concat' path with rfl | ⟨above, name, rfl⟩
  · exact List.append_ne_nil_of_right_ne_nil _ (List.cons_ne_nil _ _)
  · rw [placeOf, placeFrom_concat, List.dropLast_concat]
    intro same
    by_cases up : name = upward
    · have lengths := congrArg List.length same
      simp only [up, ↓reduceIte, List.length_append, List.length_dropLast,
        List.length_singleton] at lengths
      omega
    · simp only [up, ↓reduceIte, List.getLast?_concat, Option.getD_some] at same
      exact temporaryName_ne name n (List.singleton_inj.mp (List.append_cancel_left same))

/-- Nothing stands at the path of a temporary file: there are more names than entries. -/
theorem hasEntry_temporaryPath (tree : FileTree) (path : FilePath) :
    tree.hasEntry (temporaryPath tree path) = false := by
  unfold temporaryPath
  let name (n : Nat) : Text := temporaryName (path.getLast?.getD []) n
  let candidate (n : Nat) : FilePath := path.dropLast ++ [name n]
  let count := tree.entries.length + 1
  change tree.hasEntry (candidate
    (((List.range count).find? fun n => !tree.hasEntry (candidate n)).getD count)) = false
  cases free : (List.range count).find? fun n => !tree.hasEntry (candidate n) with
  | some n =>
      simpa using List.find?_some free
  | none =>
      -- If all candidates were taken, each would stand at a place of its own.
      have taken : ∀ n < count, tree.hasEntry (candidate n) = true := by
        intro n small
        simpa using List.find?_eq_none.mp free n (List.mem_range.mpr small)
      have standing : ∀ n < count,
          (placeOf path.dropLast ++ [name n]) ∈ tree.entries.map Prod.fst := by
        intro n small
        obtain ⟨place, entry, walked, found⟩ := hasEntry_eq_true_iff.mp (taken n small)
        obtain ⟨above, walkedAbove, -, reached⟩ := walk_concat.mp walked
        obtain rfl := eq_placeOf_of_walk walkedAbove
        rw [if_neg (temporaryName_ne_upward _ n)] at reached
        subst reached
        rw [lookup_of_ne_nil (by simp)] at found
        obtain ⟨before, after, split, -⟩ := List.lookup_eq_some_iff.mp found
        rw [split, List.map_append, List.map_cons]
        exact List.mem_append_right _ List.mem_cons_self
      have distinct : ((List.range count).map fun n => placeOf path.dropLast ++ [name n]).Nodup := by
        refine List.nodup_range.map fun m n same => ?_
        exact temporaryName_injective _ (List.singleton_inj.mp (List.append_cancel_left same))
      have inside : ((List.range count).map fun n => placeOf path.dropLast ++ [name n]) ⊆
          tree.entries.map Prod.fst := by
        intro place member
        obtain ⟨n, inRange, rfl⟩ := List.mem_map.mp member
        exact standing n (List.mem_range.mp inRange)
      have short := (distinct.subperm inside).length_le
      simp only [List.length_map, List.length_range] at short
      omega

/-! ## Filling and moving -/

theorem encode?_eq_some_iff
    {bytes : Bytes} :
    Utf8.encode? content = some bytes ↔
      content.hasSurrogate = false ∧ bytes = Utf8.encode content := by
  unfold Utf8.encode?
  cases content.hasSurrogate with
  | true => simp
  | false => simp [eq_comm]

/-- What a check says of a text. Without a check every text passes. -/
def verdict (check : Option TextCheck) (content : Text) : Attempt Unit :=
  match check with
  | some own => own content
  | none => .ok ()

/-- The part of an atomic write that is undone if it fails. -/
def fillAndMove (base : Text) (path temporary : FilePath) (content : Text)
    (check : Option TextCheck) : DiskStep Unit := do
  fill base temporary content
  ofAttempt (verdict check content)
  operate base (.moveFile temporary path)

theorem atomically_eq (base : Text) (path : FilePath) (content : Text)
    (check : Option TextCheck) :
    atomically base path content check = (do
      ensureDirectory base path.dropLast
      let temporary ← look (temporaryPath · path)
      operate base (.writeFile temporary [])
      undoing (fillAndMove base path temporary content check)
        (operate base (.removeFile temporary))) := by
  cases check <;> rfl

/-- What a disk may be at a moment of a write to a target, with a temporary file at another place:
the target has its old content or the whole new one, and all other files are as they were. -/
structure Moment (tree : FileTree) (target temporary : FilePath) (content : Text)
    (point : FileTree) : Prop where
  others : ∀ place, place ≠ target → place ≠ temporary → point.fileAt place = tree.fileAt place
  whole : point.fileAt target = tree.fileAt target ∨
    ∃ bytes, Utf8.encode? content = some bytes ∧ point.fileAt target = some bytes
  directories : KeepsDirectories tree point

/-- The temporary file stands, with some content, and the other files are those of a tree. -/
structure Pending (tree : FileTree) (path temporary : FilePath) (content : Text)
    (disk : Disk) : Prop where
  moments : ∀ point ∈ disk.points, Moment tree (placeOf path) (placeOf temporary) content point
  walked : disk.tree.walk [] temporary = .ok (placeOf temporary)
  files : ∃ bytes,
    disk.tree.fileAt = Function.update tree.fileAt (placeOf temporary) (some bytes)

/-- The target has the content, the other files are those of a tree. -/
structure Placed (tree : FileTree) (path temporary : FilePath) (content : Text)
    (disk : Disk) : Prop where
  moments : ∀ point ∈ disk.points, Moment tree (placeOf path) (placeOf temporary) content point
  files : ∃ bytes, Utf8.encode? content = some bytes ∧
    disk.tree.fileAt = Function.update tree.fileAt (placeOf path) (some bytes) ∧
    disk.tree.content path = .ok bytes

section Filling

variable (fresh : tree.fileAt (placeOf temporary) = none)
  (apart : placeOf temporary ≠ placeOf path)

include apart in
theorem moment_of_temporary
    {point : FileTree} {bytes : Bytes}
    (files : point.fileAt = Function.update tree.fileAt (placeOf temporary) (some bytes))
    (directories : KeepsDirectories tree point) :
    Moment tree (placeOf path) (placeOf temporary) content point where
  others place _ other := by rw [files, Function.update_of_ne other]
  whole := Or.inl (by rw [files, Function.update_of_ne apart.symm])
  directories := directories

include apart in
theorem pending_of_writeFile
    {bytes : Bytes} {next : FileTree} {operation : FileOperation}
    (moments : ∀ point ∈ disk.points,
      Moment tree (placeOf path) (placeOf temporary) content point)
    (files : ∃ old, disk.tree.fileAt = Function.update tree.fileAt (placeOf temporary) old)
    (written : FileTree.writeFile temporary bytes disk.tree = .ok next) :
    Pending tree path temporary content (disk.push operation next) ∧
      next.fileAt = Function.update tree.fileAt (placeOf temporary) (some bytes) := by
  obtain ⟨changed, kept, walked⟩ := writeFile_effect written
  obtain ⟨old, before⟩ := files
  rw [before, Function.update_idem] at changed
  have directories : KeepsDirectories tree next :=
    (moments disk.tree disk.tree_mem_points).directories.trans kept
  refine ⟨⟨?_, walk_of_keepsDirectories kept walked, bytes, changed⟩, changed⟩
  rw [Disk.points_push, List.forall_mem_cons]
  exact ⟨moment_of_temporary apart changed directories, moments⟩

include apart in
theorem pending_of_fill
    {result : Attempt Unit} {behind : Disk}
    (pending : Pending tree path temporary content disk)
    (filled : (fill base temporary content).outcome disk = (result, behind)) :
    Pending tree path temporary content behind ∧
      (result = .ok () → ∃ bytes, Utf8.encode? content = some bytes ∧
        behind.tree.fileAt = Function.update tree.fileAt (placeOf temporary) (some bytes)) := by
  unfold fill at filled
  cases encoded : Utf8.encode? content with
  | none =>
      simp only [encoded, outcome_throw, Prod.mk.injEq] at filled
      obtain ⟨rfl, rfl⟩ := filled
      exact ⟨pending, fun success => by cases success⟩
  | some bytes =>
      simp only [encoded, outcome_operate] at filled
      cases applied : (FileOperation.writeFile temporary bytes).apply disk.tree with
      | error fault =>
          simp only [applied, Prod.mk.injEq] at filled
          obtain ⟨rfl, rfl⟩ := filled
          exact ⟨pending, fun success => by cases success⟩
      | ok next =>
          simp only [applied, Prod.mk.injEq] at filled
          obtain ⟨rfl, rfl⟩ := filled
          obtain ⟨old, before⟩ := pending.files
          obtain ⟨still, changed⟩ :=
            pending_of_writeFile apart pending.moments ⟨some old, before⟩ applied
          exact ⟨still, fun _ => ⟨bytes, rfl, changed⟩⟩

include fresh in
theorem placed_of_moveFile
    {bytes : Bytes} {next : FileTree} {operation : FileOperation}
    (pending : Pending tree path temporary content disk)
    (encoded : Utf8.encode? content = some bytes)
    (filled : disk.tree.fileAt = Function.update tree.fileAt (placeOf temporary) (some bytes))
    (moved : FileTree.moveFile temporary path disk.tree = .ok next) :
    Placed tree path temporary content (disk.push operation next) := by
  obtain ⟨changed, kept, walked⟩ :=
    moveFile_effect moved (by rw [filled, Function.update_self])
  have unfilled : Function.update tree.fileAt (placeOf temporary) none = tree.fileAt := by
    rw [← fresh, Function.update_eq_self]
  rw [filled, Function.update_idem, unfilled] at changed
  have target : next.fileAt (placeOf path) = some bytes := by rw [changed, Function.update_self]
  refine ⟨?_, bytes, encoded, changed, content_eq_ok_iff.mpr
    ⟨_, walk_of_keepsDirectories kept walked, fileAt_eq_some_iff.mp target⟩⟩
  rw [Disk.points_push, List.forall_mem_cons]
  refine ⟨⟨fun place other _ => by rw [changed, Function.update_of_ne other],
    Or.inr ⟨bytes, encoded, target⟩, ?_⟩, pending.moments⟩
  exact (pending.moments disk.tree disk.tree_mem_points).directories.trans kept

include fresh apart in
/-- Filling and moving either fails with the temporary file still there, or places the content, and
then the check has accepted it. -/
theorem outcome_fillAndMove
    {result : Attempt Unit} {behind : Disk}
    (pending : Pending tree path temporary content disk)
    (ended : (fillAndMove base path temporary content check).outcome disk = (result, behind)) :
    (∃ failure, result = .error failure ∧ Pending tree path temporary content behind) ∨
      result = .ok () ∧ verdict check content = .ok () ∧
        Placed tree path temporary content behind := by
  unfold fillAndMove at ended
  rw [outcome_bind] at ended
  cases filled : (fill base temporary content).outcome disk with
  | mk first between =>
      obtain ⟨still, encoded⟩ := pending_of_fill apart pending filled
      rw [filled] at ended
      cases first with
      | error failure =>
          obtain ⟨rfl, rfl⟩ := Prod.mk.inj ended
          exact Or.inl ⟨failure, rfl, still⟩
      | ok value =>
          simp only [outcome_bind, outcome_ofAttempt] at ended
          cases judged : verdict check content with
          | error failure =>
              rw [judged] at ended
              obtain ⟨rfl, rfl⟩ := Prod.mk.inj ended
              exact Or.inl ⟨failure, rfl, still⟩
          | ok value =>
              simp only [judged, outcome_operate] at ended
              obtain ⟨bytes, isEncoding, changed⟩ := encoded rfl
              cases applied : (FileOperation.moveFile temporary path).apply between.tree with
              | error fault =>
                  rw [applied] at ended
                  obtain ⟨rfl, rfl⟩ := Prod.mk.inj ended
                  exact Or.inl ⟨_, rfl, still⟩
              | ok next =>
                  rw [applied] at ended
                  obtain ⟨rfl, rfl⟩ := Prod.mk.inj ended
                  exact Or.inr ⟨rfl, rfl,
                    placed_of_moveFile fresh still isEncoding changed applied⟩

include fresh in
theorem outcome_removeFile
    (base : Text)
    (pending : Pending tree path temporary content disk) :
    ∃ behind, (operate base (.removeFile temporary)).outcome disk = (.ok (), behind) ∧
      behind.tree.fileAt = tree.fileAt ∧
        ∀ point ∈ behind.points,
          Moment tree (placeOf path) (placeOf temporary) content point := by
  obtain ⟨bytes, files⟩ := pending.files
  have standing : disk.tree.fileAt (placeOf temporary) = some bytes := by
    rw [files, Function.update_self]
  have inside : placeOf temporary ≠ [] :=
    ne_nil_of_lookup disk.tree (by simp [fileAt_eq_some_iff.mp standing])
  have removed := removeFile_eq pending.walked standing
  have restored : (disk.tree.erase (placeOf temporary)).fileAt = tree.fileAt := by
    rw [fileAt_erase inside, files, Function.update_idem, ← fresh, Function.update_eq_self]
  refine ⟨disk.push (.removeFile temporary) (disk.tree.erase (placeOf temporary)), ?_, restored, ?_⟩
  · rw [outcome_operate]
    simp only [FileOperation.apply, removed]
  · rw [Disk.points_push, List.forall_mem_cons]
    refine ⟨⟨fun place _ _ => by rw [restored], Or.inl (by rw [restored]), ?_⟩, pending.moments⟩
    exact (pending.moments disk.tree disk.tree_mem_points).directories.trans
      (keepsDirectories_erase (fileAt_eq_some_iff.mp standing))

end Filling

/-! ## Whole writes -/

/-- What an atomic write comes to, given its result and the disk behind it. -/
structure AtomicEffect (tree : FileTree) (path : FilePath) (content : Text)
    (check : Option TextCheck) (result : Attempt Unit) (disk : Disk) : Prop where
  moments : ∃ temporary, tree.fileAt temporary = none ∧
    ∀ point ∈ disk.points, Moment tree (placeOf path) temporary content point
  failed : ∀ failure, result = .error failure → disk.tree.fileAt = tree.fileAt
  succeeded : result = .ok () → ∃ bytes, Utf8.encode? content = some bytes ∧
    disk.tree.fileAt = Function.update tree.fileAt (placeOf path) (some bytes) ∧
    disk.tree.content path = .ok bytes
  accepted : result = .ok () → verdict check content = .ok ()

theorem HasSameFiles.moments
    (same : HasSameFiles tree disk)
    (target temporary : FilePath) (content : Text) :
    ∀ point ∈ disk.points, Moment tree target temporary content point := by
  intro point member
  obtain ⟨files, directories⟩ := same point member
  exact ⟨fun place _ _ => by rw [files], Or.inl (by rw [files]), directories⟩

theorem pending_of_made
    {next : FileTree} {operation : FileOperation}
    (same : HasSameFiles tree disk)
    (temporary_eq : temporary = temporaryPath disk.tree path)
    (made : FileTree.writeFile temporary [] disk.tree = .ok next) :
    tree.fileAt (placeOf temporary) = none ∧
      Pending tree path temporary content (disk.push operation next) := by
  have files := (same disk.tree disk.tree_mem_points).1
  obtain ⟨-, -, walked⟩ := writeFile_effect made
  have fresh : tree.fileAt (placeOf temporary) = none := by
    rw [← files]
    cases found : disk.tree.fileAt (placeOf temporary) with
    | none =>
        rfl
    | some bytes =>
        have present : disk.tree.hasEntry temporary = true :=
          hasEntry_eq_true_iff.mpr ⟨_, _, walked, fileAt_eq_some_iff.mp found⟩
        rw [temporary_eq, hasEntry_temporaryPath] at present
        cases present
  have apart : placeOf temporary ≠ placeOf path := by
    rw [temporary_eq]
    exact placeOf_temporaryPath_ne disk.tree path
  refine ⟨fresh, (pending_of_writeFile apart (same.moments _ _ _) ⟨none, ?_⟩ made).1⟩
  rw [files, ← fresh, Function.update_eq_self]

/-- An atomic write has its effect, from every tree and however it ends. -/
theorem atomicEffect_atomically
    (base : Text) (tree : FileTree) (path : FilePath) (content : Text)
    (check : Option TextCheck) :
    AtomicEffect tree path content check ((atomically base path content check).outcome { tree }).1
      ((atomically base path content check).outcome { tree }).2 := by
  -- Until the temporary file is made, a failure leaves the files as they were.
  have unchanged {failure : Failure} {disk : Disk} (same : HasSameFiles tree disk) :
      AtomicEffect tree path content check (.error failure) disk :=
    { moments := ⟨[], fileAt_eq_none_of_directory rfl, same.moments _ _ _⟩
      failed := fun _ _ => (same disk.tree disk.tree_mem_points).1
      succeeded := fun success => by cases success
      accepted := fun success => by cases success }
  have same := keeps_hasSameFiles_ensureDirectory tree base path.dropLast _
    (hasSameFiles_start tree)
  rw [atomically_eq, outcome_bind]
  cases directories : (ensureDirectory base path.dropLast).outcome { tree } with
  | mk first ready =>
      rw [directories] at same
      cases first with
      | error failure =>
          exact unchanged same
      | ok value =>
          dsimp only
          rw [outcome_bind, outcome_look]
          dsimp only
          rw [outcome_bind, outcome_operate]
          cases applied :
              (FileOperation.writeFile (temporaryPath ready.tree path) []).apply ready.tree with
          | error fault =>
              exact unchanged same
          | ok next =>
              -- From here on that file is the only change, and what fails takes it away again.
              obtain ⟨fresh, pending⟩ := pending_of_made same rfl applied
              have apart := placeOf_temporaryPath_ne ready.tree path
              dsimp only
              rw [outcome_undoing]
              cases ended : (fillAndMove base path (temporaryPath ready.tree path) content
                  check).outcome (ready.push (.writeFile (temporaryPath ready.tree path) []) next) with
              | mk result behind =>
                  rcases outcome_fillAndMove fresh apart pending ended with
                    ⟨failure, rfl, still⟩ | ⟨rfl, passed, placed⟩
                  · obtain ⟨last, removed, restored, moments⟩ :=
                      outcome_removeFile fresh base still
                    dsimp only
                    rw [removed]
                    exact {
                      moments := ⟨_, fresh, moments⟩
                      failed := fun _ _ => restored
                      succeeded := fun success => by cases success
                      accepted := fun success => by cases success }
                  · exact {
                      moments := ⟨_, fresh, placed.moments⟩
                      failed := fun failure isError => by cases isError
                      succeeded := fun _ => placed.files
                      accepted := fun _ => passed }

end RecordGen.Write
