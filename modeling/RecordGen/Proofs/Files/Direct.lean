import RecordGen.Proofs.Files.Calls
import RecordGen.Proofs.Files.Failures

/-!
# Direct writes

What a direct write does to the files of a tree, beside what an atomic one does. Both make the same
directories and both need a path that leads to no directory then, so they succeed together. They part
where a text has no encoding: the target is emptied before that is found out.
-/

namespace RecordGen.Write

open DiskStep FileTree

variable {base : Text} {tree : FileTree} {path : FilePath} {content : Text}
  {check : Option TextCheck} {disk behind ready : Disk}

/-! ## Paths that can be written -/

theorem hasDirectory_of_makeDirectory
    {after : FileTree}
    (made : FileTree.makeDirectory path tree = .ok after) :
    after.hasDirectory path = true := by
  obtain ⟨-, kept⟩ := makeDirectory_effect made
  unfold FileTree.makeDirectory at made
  obtain ⟨place, walked, put⟩ := bind_eq_ok.mp made
  cases found : tree.lookup place with
  | some entry =>
      simp [found] at put
  | none =>
      simp only [found, Except.ok.injEq] at put
      have inside : place ≠ [] := ne_nil_of_lookup tree (by simp [found])
      refine hasDirectory_eq_true_iff.mpr ⟨place, walk_of_keepsDirectories kept walked, ?_⟩
      rw [← put, lookup_put_self inside]

theorem ensures_settle (failure : Failure) :
    Ensures (·.tree.hasDirectory path = true)
      (do if ← look (·.hasDirectory path) then pure () else throw failure) := by
  intro disk value behind done
  rw [outcome_bind, outcome_look] at done
  cases present : disk.tree.hasDirectory path with
  | false =>
      rw [present] at done
      cases done
  | true =>
      rw [present] at done
      cases done
      exact present

/-- A directory that has been ensured stands. -/
theorem ensures_ensureDirectory (base : Text) (path : FilePath) :
    Ensures (·.tree.hasDirectory path = true) (ensureDirectory base path) := by
  have make : Ensures (·.tree.hasDirectory path = true) (operate base (.makeDirectory path)) :=
    ensures_operate fun disk tree => hasDirectory_of_makeDirectory
  unfold ensureDirectory
  cases reversed : path.reverse with
  | nil =>
      obtain rfl := List.reverse_eq_nil_iff.mp reversed
      exact fun disk value behind done => rfl
  | cons name above =>
      have spelled : (name :: above).reverse = path := by rw [← reversed, List.reverse_reverse]
      unfold ensureDirectoryUpward
      simp only [spelled]
      -- Whatever is done about the directories above, the last step makes this one or finds it.
      refine ensures_tryCatch make fun failure => ?_
      split
      · refine ensures_bind fun _ => ensures_tryCatch make fun failure => ?_
        split
        · exact ensures_throw _
        · exact ensures_settle failure
      · exact ensures_settle failure

/-- A path can be written: its directory stands or can be made, and then the path leads to no
directory. -/
def Admits (base : Text) (tree : FileTree) (path : FilePath) : Prop :=
  ∃ ready, (ensureDirectory base path.dropLast).outcome { tree } = (.ok (), ready) ∧
    ready.tree.hasDirectory path = false

theorem admits_iff_of_ensured
    (ensured : (ensureDirectory base path.dropLast).outcome { tree } = (.ok (), ready)) :
    Admits base tree path ↔ ready.tree.hasDirectory path = false := by
  unfold Admits
  simp only [ensured, Prod.mk.injEq, true_and, exists_eq_left']

theorem not_admits_of_error
    {failure : Failure}
    (failed : (ensureDirectory base path.dropLast).outcome { tree } = (.error failure, ready)) :
    ¬ Admits base tree path := by
  rintro ⟨other, ensured, -⟩
  rw [failed] at ensured
  cases ensured

/-! ## Atomic writes -/

theorem placingResult_eq_ok_iff :
    placingResult base path content check tree = .ok () ↔
      content.hasSurrogate = false ∧ verdict check content = .ok () ∧
        tree.hasDirectory path = false := by
  unfold placingResult Utf8.encode?
  cases content.hasSurrogate with
  | true =>
      simp
  | false =>
      cases verdict check content with
      | error failure =>
          simp [bind, Except.bind]
      | ok value =>
          cases tree.hasDirectory path <;> simp [bind, Except.bind]

/-- An atomic write succeeds exactly with a text that has an encoding and passes its check, to a path
that can be written. -/
theorem atomically_eq_ok_iff :
    ((atomically base path content check).outcome { tree }).1 = .ok () ↔
      content.hasSurrogate = false ∧ verdict check content = .ok () ∧ Admits base tree path := by
  rw [atomically_eq_fillBeside, outcome_bind]
  cases directories : (ensureDirectory base path.dropLast).outcome { tree } with
  | mk first ready =>
      cases first with
      | error failure =>
          simp [not_admits_of_error directories]
      | ok value =>
          rw [admits_iff_of_ensured directories]
          dsimp only
          rw [result_fillBeside (ensures_ensureDirectory base path.dropLast _ _ _ directories),
            placingResult_eq_ok_iff]

/-! ## Direct writes -/

theorem writeFile_of_walk
    {bytes : Bytes}
    (walked : tree.walk [] path = .ok (placeOf path)) :
    FileTree.writeFile path bytes tree =
      if tree.hasDirectory path then .error .isDirectory
      else .ok (tree.put (placeOf path) (.file bytes)) := by
  have directory := hasDirectory_iff_of_walk walked
  split
  · rename_i there
    unfold FileTree.writeFile
    rw [walked, ok_bind, directory.mp there]
  · rename_i absent
    exact writeFile_eq_ok_iff.mpr ⟨walked, fun there => absent (directory.mpr there), rfl⟩

/-- The part of a direct write behind the making of directories. -/
def fillOver (base : Text) (path : FilePath) (content : Text) : DiskStep Unit := do
  operate base (.writeFile path [])
  fill base path content

theorem directly_eq_fillOver (base : Text) (path : FilePath) (content : Text)
    (check : Option TextCheck) :
    directly base path content check = (do
      ofAttempt (verdict check content)
      ensureDirectory base path.dropLast
      fillOver base path content) :=
  directly_eq base path content check

/-- The file is emptied first, so without an encoding of the text it stays empty. -/
theorem outcome_fillOver
    (base : Text) (content : Text)
    (walked : disk.tree.walk [] path = .ok (placeOf path))
    (free : disk.tree.hasDirectory path = false) :
    ∃ behind, (fillOver base path content).outcome disk =
        (if content.hasSurrogate then .error .unencodable else .ok (), behind) ∧
      behind.tree.fileAt = Function.update disk.tree.fileAt (placeOf path)
        (some (if content.hasSurrogate then [] else Utf8.encode content)) := by
  have made : FileTree.writeFile path [] disk.tree =
      .ok (disk.tree.put (placeOf path) (.file [])) := by
    rw [writeFile_of_walk walked, free]
    rfl
  obtain ⟨emptied, kept, -⟩ := writeFile_effect made
  simp only [fillOver, fill, outcome_bind, outcome_operate, FileOperation.apply, made, Utf8.encode?]
  cases content.hasSurrogate with
  | true =>
      exact ⟨_, rfl, emptied⟩
  | false =>
      have standing : (disk.tree.put (placeOf path) (.file [])).fileAt (placeOf path) = some [] := by
        rw [emptied, Function.update_self]
      have filled : FileTree.writeFile path (Utf8.encode content)
          (disk.tree.put (placeOf path) (.file [])) = .ok _ :=
        writeFile_eq_ok_iff.mpr ⟨walk_of_keepsDirectories kept walked,
          by simp [fileAt_eq_some_iff.mp standing], rfl⟩
      obtain ⟨changed, -⟩ := writeFile_effect filled
      rw [emptied, Function.update_idem] at changed
      simp only [Bool.false_eq_true, ↓reduceIte, outcome_operate, FileOperation.apply, Disk.push,
        filled]
      exact ⟨_, rfl, changed⟩

/-- What a direct write comes to: its result, and the tree behind it. -/
inductive DirectEffect (base : Text) (tree : FileTree) (path : FilePath) (content : Text)
    (check : Option TextCheck) : Attempt Unit → FileTree → Prop
  | refused {failure after} :
      ¬ (verdict check content = .ok () ∧ Admits base tree path) → after.fileAt = tree.fileAt →
        DirectEffect base tree path content check (.error failure) after
  | emptied {after} :
      verdict check content = .ok () → Admits base tree path → content.hasSurrogate = true →
        after.fileAt = Function.update tree.fileAt (placeOf path) (some []) →
          DirectEffect base tree path content check (.error .unencodable) after
  | written {after} :
      verdict check content = .ok () → Admits base tree path → content.hasSurrogate = false →
        after.fileAt = Function.update tree.fileAt (placeOf path) (some (Utf8.encode content)) →
          DirectEffect base tree path content check (.ok ()) after

/-- A direct write has its effect, from every tree and however it ends. -/
theorem directEffect_directly
    (base : Text) (tree : FileTree) (path : FilePath) (content : Text)
    (check : Option TextCheck) :
    DirectEffect base tree path content check ((directly base path content check).outcome { tree }).1
      ((directly base path content check).outcome { tree }).2.tree := by
  rw [directly_eq_fillOver, outcome_bind, outcome_ofAttempt]
  cases judged : verdict check content with
  | error failure =>
      exact .refused (fun passed => by rw [judged] at passed; cases passed.1) rfl
  | ok value =>
      have same := keeps_hasSameFiles_ensureDirectory tree base path.dropLast _
        (hasSameFiles_start tree)
      dsimp only
      rw [outcome_bind]
      cases directories : (ensureDirectory base path.dropLast).outcome { tree } with
      | mk first ready =>
          rw [directories] at same
          obtain ⟨files, -⟩ := same ready.tree ready.tree_mem_points
          cases first with
          | error failure =>
              exact .refused (fun passed => not_admits_of_error directories passed.2) files
          | ok value =>
              -- The directory stands, so only the target and the text can still be at fault.
              have admits := admits_iff_of_ensured directories
              have walked : ready.tree.walk [] path = .ok (placeOf path) :=
                walk_of_hasDirectory (ensures_ensureDirectory base path.dropLast _ _ _ directories)
              dsimp only
              cases there : ready.tree.hasDirectory path with
              | true =>
                  simp only [fillOver, outcome_bind, outcome_operate, FileOperation.apply,
                    writeFile_of_walk walked, there, ↓reduceIte]
                  refine .refused (fun passed => ?_) files
                  rw [admits, there] at passed
                  cases passed.2
              | false =>
                  obtain ⟨behind, ended, changed⟩ :=
                    outcome_fillOver base content walked there
                  rw [files] at changed
                  rw [ended]
                  cases surrogate : content.hasSurrogate with
                  | true =>
                      rw [surrogate] at changed
                      exact .emptied judged (admits.mpr there) surrogate changed
                  | false =>
                      rw [surrogate] at changed
                      exact .written judged (admits.mpr there) surrogate changed

/-- A direct write succeeds where an atomic one does. -/
theorem DirectEffect.eq_ok_iff
    {result : Attempt Unit} {after : FileTree}
    (effect : DirectEffect base tree path content check result after) :
    result = .ok () ↔
      content.hasSurrogate = false ∧ verdict check content = .ok () ∧ Admits base tree path := by
  cases effect with
  | refused refused files =>
      exact iff_of_false (fun done => by cases done) (fun passed => refused passed.2)
  | emptied passed admits surrogate files =>
      exact iff_of_false (fun done => by cases done) (fun free => by simp [surrogate] at free)
  | written passed admits encodable files =>
      exact iff_of_true rfl ⟨encodable, passed, admits⟩

/-! ## Both ways -/

theorem fileAt_atomically_of_passes
    (passes : content.hasSurrogate = false ∧ verdict check content = .ok () ∧
      Admits base tree path) :
    ((atomically base path content check).outcome { tree }).2.tree.fileAt =
      Function.update tree.fileAt (placeOf path) (some (Utf8.encode content)) := by
  obtain ⟨bytes, encoded, files, -⟩ := (atomicEffect_atomically base tree path content check).succeeded
    (atomically_eq_ok_iff.mpr passes)
  obtain ⟨-, rfl⟩ := encode?_eq_some_iff.mp encoded
  exact files

theorem fileAt_atomically_of_fails
    (fails : ¬ (content.hasSurrogate = false ∧ verdict check content = .ok () ∧
      Admits base tree path)) :
    ((atomically base path content check).outcome { tree }).2.tree.fileAt = tree.fileAt := by
  cases ended : ((atomically base path content check).outcome { tree }).1 with
  | error failure =>
      exact (atomicEffect_atomically base tree path content check).failed failure ended
  | ok value =>
      exact absurd (atomically_eq_ok_iff.mp ended) fails

/-- A direct write leaves the files that an atomic one leaves, but for a text without an encoding that
passes its check. It leaves then what a write of the empty text leaves. -/
theorem DirectEffect.fileAt_eq
    {result : Attempt Unit} {after : FileTree}
    (effect : DirectEffect base tree path content check result after) :
    after.fileAt =
      if content.hasSurrogate = true ∧ verdict check content = .ok () then
        ((atomically base path [] none).outcome { tree }).2.tree.fileAt
      else ((atomically base path content check).outcome { tree }).2.tree.fileAt := by
  cases effect with
  | refused refused files =>
      -- What refuses the text refuses both ways, and what is not the text's fault the empty text too.
      rw [files]
      split
      · rename_i lost
        exact (fileAt_atomically_of_fails fun passes => refused ⟨lost.2, passes.2.2⟩).symm
      · exact (fileAt_atomically_of_fails fun passes => refused passes.2).symm
  | emptied passed admits surrogate files =>
      rw [files, if_pos ⟨surrogate, passed⟩, fileAt_atomically_of_passes ⟨rfl, rfl, admits⟩]
      rfl
  | written passed admits encodable files =>
      rw [files, if_neg (fun lost => by simp [encodable] at lost)]
      exact (fileAt_atomically_of_passes ⟨encodable, passed, admits⟩).symm

end RecordGen.Write
