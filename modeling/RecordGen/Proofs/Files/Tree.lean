import RecordGen.Files.Operation
import RecordGen.Proofs.Outcome
import Mathlib.Logic.Function.Basic

/-!
# Files of a tree

A tree is judged by the content of the file at each place. A walk ends at the place that its names
spell, whatever the tree, so a path has one place; and each operation of the system changes the
files of a tree at that place only, and no directory.
-/

namespace RecordGen.FileTree

/-- The content of the file at a place; `none` where no file stands. -/
def fileAt (tree : FileTree) (place : FilePath) : Option Bytes :=
  match tree.lookup place with
  | some (.file content) => some content
  | _ => none

/-- The place that names lead to, by their spelling alone. -/
def placeFrom (place : FilePath) : List Text → FilePath
  | [] => place
  | name :: rest =>
    if name = upward then placeFrom place.dropLast rest else placeFrom (place ++ [name]) rest

def placeOf (path : FilePath) : FilePath := placeFrom [] path

/-- Every directory of a tree is one of another tree. -/
def KeepsDirectories (before after : FileTree) : Prop :=
  ∀ place, before.lookup place = some .directory → after.lookup place = some .directory

theorem KeepsDirectories.refl (tree : FileTree) : KeepsDirectories tree tree :=
  fun _ directory => directory

theorem KeepsDirectories.trans
    {first second third : FileTree}
    (left : KeepsDirectories first second)
    (right : KeepsDirectories second third) :
    KeepsDirectories first third :=
  fun place directory => right place (left place directory)

variable {tree after : FileTree} {place other : FilePath} {path source target : FilePath}
  {content : Bytes} {entry : Entry}

/-! ## Entries -/

theorem lookup_of_ne_nil (inside : place ≠ []) :
    tree.lookup place = tree.entries.lookup place := by
  simp [lookup, inside]

theorem lookup_erase_self (inside : place ≠ []) : (tree.erase place).lookup place = none := by
  rw [lookup_of_ne_nil inside, erase, List.lookup_eq_none_iff]
  intro entry member
  have kept := (List.mem_filter.mp member).2
  simp only [ne_eq, decide_not, Bool.not_eq_eq_eq_not, Bool.not_true, decide_eq_false_iff_not] at kept
  simpa using fun same : place = entry.1 => kept same.symm

theorem lookup_erase_of_ne (different : other ≠ place) :
    (tree.erase place).lookup other = tree.lookup other := by
  by_cases root : other = []
  · simp [lookup, root]
  · rw [lookup_of_ne_nil root, lookup_of_ne_nil root, erase]
    change (tree.entries.filter _).lookup other = _
    induction tree.entries with
    | nil =>
        rfl
    | cons head rest inductionHypothesis =>
        obtain ⟨path, entry⟩ := head
        by_cases erased : path = place
        · have missed : (other == path) = false := by simpa [erased] using different
          rw [List.filter_cons_of_neg (by simp [erased]), List.lookup_cons, missed,
            inductionHypothesis]
        · rw [List.filter_cons_of_pos (by simp [erased]), List.lookup_cons, List.lookup_cons,
            inductionHypothesis]

theorem lookup_put_self (inside : place ≠ []) :
    (tree.put place entry).lookup place = some entry := by
  rw [lookup_of_ne_nil inside, put]
  simp

theorem lookup_put_of_ne (different : other ≠ place) :
    (tree.put place entry).lookup other = tree.lookup other := by
  have erased : (tree.erase place).lookup other = tree.lookup other := lookup_erase_of_ne different
  by_cases root : other = []
  · simp [lookup, root]
  · have missed : (other == place) = false := by simpa using different
    rw [← erased, lookup_of_ne_nil root, lookup_of_ne_nil root, put, List.lookup_cons, missed]

/-! ## Walks -/

theorem eq_placeFrom_of_walk
    {names : List Text}
    (walked : tree.walk place names = .ok other) :
    other = placeFrom place names := by
  induction names generalizing place with
  | nil =>
      exact (Except.ok.inj walked).symm
  | cons name rest inductionHypothesis =>
      unfold walk at walked
      unfold placeFrom
      split at walked
      · cases walked
      · cases walked
      · by_cases up : name = upward
        · simp only [up, ↓reduceIte] at walked ⊢
          exact inductionHypothesis walked
        · simp only [up, ↓reduceIte] at walked ⊢
          exact inductionHypothesis walked

theorem placeFrom_concat (place : FilePath) (names : List Text) (name : Text) :
    placeFrom place (names ++ [name]) =
      if name = upward then (placeFrom place names).dropLast
      else placeFrom place names ++ [name] := by
  induction names generalizing place with
  | nil =>
      rfl
  | cons first rest inductionHypothesis =>
      rw [List.cons_append, placeFrom, placeFrom]
      by_cases up : first = upward
      · simp only [up, ↓reduceIte, inductionHypothesis]
      · simp only [up, ↓reduceIte, inductionHypothesis]

theorem eq_placeOf_of_walk
    (walked : tree.walk [] path = .ok place) :
    place = placeOf path :=
  eq_placeFrom_of_walk walked

/-- A walk succeeds where all directories that it passes are kept. -/
theorem walk_of_keepsDirectories
    {names : List Text}
    (kept : KeepsDirectories tree after)
    (walked : tree.walk place names = .ok other) :
    after.walk place names = .ok other := by
  induction names generalizing place with
  | nil =>
      exact walked
  | cons name rest inductionHypothesis =>
      unfold walk at walked ⊢
      split at walked
      · cases walked
      · cases walked
      · rename_i directory
        rw [kept place directory]
        by_cases up : name = upward
        · simp only [up, ↓reduceIte] at walked ⊢
          exact inductionHypothesis walked
        · simp only [up, ↓reduceIte] at walked ⊢
          exact inductionHypothesis walked

theorem walk_concat
    {names : List Text} {name : Text} :
    tree.walk place (names ++ [name]) = .ok other ↔
      ∃ above, tree.walk place names = .ok above ∧ tree.lookup above = some .directory ∧
        other = if name = upward then above.dropLast else above ++ [name] := by
  induction names generalizing place with
  | nil =>
      simp only [List.nil_append, walk, Except.ok.injEq, exists_eq_left']
      cases found : tree.lookup place with
      | none =>
          simp
      | some entry =>
          cases entry with
          | file content =>
              simp
          | directory =>
              by_cases up : name = upward
              · simp [up, eq_comm]
              · simp [up, eq_comm]
  | cons first rest inductionHypothesis =>
      rw [List.cons_append, walk, walk]
      cases found : tree.lookup place with
      | none =>
          simp
      | some entry =>
          cases entry with
          | file content =>
              simp
          | directory =>
              by_cases up : first = upward
              · simp only [up, ↓reduceIte]
                exact inductionHypothesis
              · simp only [up, ↓reduceIte]
                exact inductionHypothesis

theorem find_eq_ok_iff :
    tree.find path = .ok (place, entry) ↔
      tree.walk [] path = .ok place ∧ tree.lookup place = some entry := by
  unfold find
  rw [bind_eq_ok]
  constructor
  · rintro ⟨reached, walked, found⟩
    cases stands : tree.lookup reached with
    | none =>
        simp [stands] at found
    | some standing =>
        simp only [stands, Except.ok.injEq, Prod.mk.injEq] at found
        obtain ⟨rfl, rfl⟩ := found
        exact ⟨walked, stands⟩
  · rintro ⟨walked, found⟩
    exact ⟨place, walked, by simp [found]⟩

theorem hasEntry_eq_true_iff :
    tree.hasEntry path = true ↔
      ∃ place entry, tree.walk [] path = .ok place ∧ tree.lookup place = some entry := by
  unfold hasEntry
  constructor
  · intro present
    obtain ⟨⟨place, entry⟩, found⟩ := exists_ok_of_isSome present
    exact ⟨place, entry, find_eq_ok_iff.mp found⟩
  · rintro ⟨place, entry, walked, found⟩
    rw [find_eq_ok_iff.mpr ⟨walked, found⟩]
    rfl

theorem hasDirectory_eq_true_iff :
    tree.hasDirectory path = true ↔
      ∃ place, tree.walk [] path = .ok place ∧ tree.lookup place = some .directory := by
  unfold hasDirectory
  constructor
  · intro present
    split at present
    · rename_i place found
      exact ⟨place, find_eq_ok_iff.mp found⟩
    · cases present
  · rintro ⟨place, walked, found⟩
    rw [find_eq_ok_iff.mpr ⟨walked, found⟩]

theorem content_eq_ok_iff :
    tree.content path = .ok content ↔
      ∃ place, tree.walk [] path = .ok place ∧ tree.lookup place = some (.file content) := by
  unfold FileTree.content
  rw [bind_eq_ok]
  constructor
  · rintro ⟨⟨place, entry⟩, found, read⟩
    cases entry with
    | file stored =>
        cases read
        exact ⟨place, find_eq_ok_iff.mp found⟩
    | directory =>
        cases read
  · rintro ⟨place, walked, found⟩
    exact ⟨(place, .file content), find_eq_ok_iff.mpr ⟨walked, found⟩, rfl⟩

/-! ## Files -/

theorem fileAt_eq_some_iff :
    tree.fileAt place = some content ↔ tree.lookup place = some (.file content) := by
  unfold fileAt
  cases tree.lookup place with
  | none =>
      simp
  | some entry =>
      cases entry <;> simp

theorem fileAt_eq_none_of_directory
    (directory : tree.lookup place = some .directory) :
    tree.fileAt place = none := by
  simp [fileAt, directory]

theorem fileAt_put_file (inside : place ≠ []) :
    (tree.put place (.file content)).fileAt = Function.update tree.fileAt place (some content) := by
  funext other
  by_cases same : other = place
  · subst same
    rw [Function.update_self, fileAt_eq_some_iff, lookup_put_self inside]
  · rw [Function.update_of_ne same, fileAt, lookup_put_of_ne same, fileAt]

theorem fileAt_put_directory
    (inside : place ≠ [])
    (free : tree.lookup place = none) :
    (tree.put place .directory).fileAt = tree.fileAt := by
  funext other
  by_cases same : other = place
  · subst same
    rw [fileAt_eq_none_of_directory (lookup_put_self inside), fileAt, free]
  · rw [fileAt, lookup_put_of_ne same, fileAt]

theorem fileAt_erase (inside : place ≠ []) :
    (tree.erase place).fileAt = Function.update tree.fileAt place none := by
  funext other
  by_cases same : other = place
  · subst same
    rw [Function.update_self, fileAt, lookup_erase_self inside]
  · rw [Function.update_of_ne same, fileAt, lookup_erase_of_ne same, fileAt]

theorem keepsDirectories_put
    (kept : tree.lookup place = some .directory → entry = .directory) :
    KeepsDirectories tree (tree.put place entry) := by
  intro other directory
  by_cases same : other = place
  · subst same
    by_cases root : other = []
    · simp [lookup, root]
    · rw [lookup_put_self root, kept directory]
  · rw [lookup_put_of_ne same, directory]

theorem keepsDirectories_erase
    (file : tree.lookup place = some (.file content)) :
    KeepsDirectories tree (tree.erase place) := by
  intro other directory
  by_cases same : other = place
  · rw [same, file] at directory
    cases directory
  · rw [lookup_erase_of_ne same, directory]

/-! ## Operations -/

theorem ne_nil_of_lookup
    (tree : FileTree)
    (other : tree.lookup place ≠ some .directory) :
    place ≠ [] := by
  rintro rfl
  exact other (by simp [lookup])

theorem makeDirectory_effect
    (made : makeDirectory path tree = .ok after) :
    after.fileAt = tree.fileAt ∧ KeepsDirectories tree after := by
  unfold makeDirectory at made
  obtain ⟨place, -, put⟩ := bind_eq_ok.mp made
  cases found : tree.lookup place with
  | some entry =>
      simp [found] at put
  | none =>
      simp only [found, Except.ok.injEq] at put
      have inside : place ≠ [] := ne_nil_of_lookup tree (by simp [found])
      subst put
      exact ⟨fileAt_put_directory inside found, keepsDirectories_put fun _ => rfl⟩

theorem unlessDirectory_eq_ok_iff
    {next : FileTree} :
    (match tree.lookup place with
      | some .directory => (.error .isDirectory : Except SystemFault FileTree)
      | _ => .ok next) = .ok after ↔
      tree.lookup place ≠ some .directory ∧ after = next := by
  cases tree.lookup place with
  | none =>
      simp [eq_comm]
  | some entry =>
      cases entry <;> simp [eq_comm]

theorem writeFile_eq_ok_iff :
    writeFile path content tree = .ok after ↔
      tree.walk [] path = .ok (placeOf path) ∧ tree.lookup (placeOf path) ≠ some .directory ∧
        after = tree.put (placeOf path) (.file content) := by
  unfold writeFile
  rw [bind_eq_ok]
  constructor
  · rintro ⟨place, walked, put⟩
    obtain rfl := eq_placeOf_of_walk walked
    exact ⟨walked, unlessDirectory_eq_ok_iff.mp put⟩
  · rintro ⟨walked, put⟩
    exact ⟨_, walked, unlessDirectory_eq_ok_iff.mpr put⟩

/-- A written file holds the content, at the place of its path. -/
theorem writeFile_effect
    (written : writeFile path content tree = .ok after) :
    after.fileAt = Function.update tree.fileAt (placeOf path) (some content) ∧
      KeepsDirectories tree after ∧ tree.walk [] path = .ok (placeOf path) := by
  obtain ⟨walked, noDirectory, rfl⟩ := writeFile_eq_ok_iff.mp written
  exact ⟨fileAt_put_file (ne_nil_of_lookup tree noDirectory),
    keepsDirectories_put fun directory => absurd directory noDirectory, walked⟩

theorem removeFile_eq
    (walked : tree.walk [] path = .ok place)
    (file : tree.fileAt place = some content) :
    removeFile path tree = .ok (tree.erase place) := by
  have found := find_eq_ok_iff.mpr ⟨walked, fileAt_eq_some_iff.mp file⟩
  unfold removeFile
  rw [found]
  rfl

theorem moveFile_eq_ok_iff
    (file : tree.fileAt (placeOf source) = some content) :
    moveFile source target tree = .ok after ↔
      tree.walk [] source = .ok (placeOf source) ∧ tree.walk [] target = .ok (placeOf target) ∧
        tree.lookup (placeOf target) ≠ some .directory ∧
          after = (tree.erase (placeOf source)).put (placeOf target) (.file content) := by
  rw [fileAt_eq_some_iff] at file
  unfold moveFile
  rw [bind_eq_ok]
  constructor
  · rintro ⟨⟨origin, entry⟩, found, rest⟩
    obtain ⟨walked, stands⟩ := find_eq_ok_iff.mp found
    obtain rfl := eq_placeOf_of_walk walked
    obtain rfl := Option.some.inj (stands.symm.trans file)
    obtain ⟨place, walkedTarget, put⟩ := bind_eq_ok.mp rest
    obtain rfl := eq_placeOf_of_walk walkedTarget
    exact ⟨walked, walkedTarget, unlessDirectory_eq_ok_iff.mp put⟩
  · rintro ⟨walked, walkedTarget, put⟩
    exact ⟨_, find_eq_ok_iff.mpr ⟨walked, file⟩,
      bind_eq_ok.mpr ⟨_, walkedTarget, unlessDirectory_eq_ok_iff.mpr put⟩⟩

/-- A moved file stands at the place of its target, and no longer at its own. -/
theorem moveFile_effect
    (moved : moveFile source target tree = .ok after)
    (file : tree.fileAt (placeOf source) = some content) :
    after.fileAt =
        Function.update (Function.update tree.fileAt (placeOf source) none) (placeOf target)
          (some content) ∧
      KeepsDirectories tree after ∧ tree.walk [] target = .ok (placeOf target) := by
  obtain ⟨-, walkedTarget, noDirectory, rfl⟩ := (moveFile_eq_ok_iff file).mp moved
  rw [fileAt_eq_some_iff] at file
  have insideSource : placeOf source ≠ [] := ne_nil_of_lookup tree (by simp [file])
  have insideTarget : placeOf target ≠ [] := ne_nil_of_lookup tree noDirectory
  refine ⟨by rw [fileAt_put_file insideTarget, fileAt_erase insideSource], ?_, walkedTarget⟩
  -- A directory stands neither at the origin, which is a file, nor at the target.
  intro other directory
  have notTarget : other ≠ placeOf target := by
    rintro rfl
    exact noDirectory directory
  rw [lookup_put_of_ne notTarget, keepsDirectories_erase file other directory]

end RecordGen.FileTree
