import RecordGen.Proofs.Command.Runs
import RecordGen.Proofs.Files.Direct
import RecordGen.Proofs.Record.Emission

/-!
# Two ways to write an output

The output options choose between an atomic write and a direct one. For the two modes that options can
name, both succeed or both fail, and both leave the same files; what is said on the way may differ,
since the steps come in another order. One text tells them apart: one that has no encoding and is not
checked.
-/

namespace RecordGen.Command

open DiskStep FileTree

variable {base : Text} {tree : FileTree} {path : FilePath} {content : Text} {o : OutputSettings}

theorem hasSurrogate_of_checkOutput
    (passed : checkOutput content = .ok ()) :
    content.hasSurrogate = false := by
  obtain ⟨tree, parsed, -⟩ := map_eq_ok.mp (checkOutput_eq_ok_iff.mp passed)
  exact (Source.free_of_parse parsed).1

/-- The check that the options ask for. -/
def outputCheck (o : OutputSettings) : Option TextCheck :=
  if o.validateBeforeWrite.isTruthy then some checkOutput else none

/-- Where the text has no encoding, it passes the check of the options only if they ask for none. -/
theorem verdict_outputCheck_of_hasSurrogate
    (surrogate : content.hasSurrogate = true) :
    Write.verdict (outputCheck o) content = .ok () ↔ o.validateBeforeWrite.isTruthy = false := by
  unfold outputCheck Write.verdict
  cases o.validateBeforeWrite.isTruthy with
  | false =>
      simp
  | true =>
      simp only [↓reduceIte, Bool.true_eq_false, iff_false]
      intro passed
      rw [hasSurrogate_of_checkOutput passed] at surrogate
      cases surrogate

/-- In one of the two modes an output that stands is refused, if it may not be replaced, and otherwise
is written in the way of the options. -/
theorem outcome_writeOutput
    (mode : o.mode = .errorIfExists ∨ o.mode = .force) :
    (writeOutput base path content o).outcome { tree } =
      if o.mode = .errorIfExists ∧ tree.hasEntry path = true then
        (.error (.outputExists (shownPath base path)), { tree })
      else if o.atomicWrite.isTruthy then
        (Write.atomically base path content (outputCheck o)).outcome { tree }
      else (Write.directly base path content (outputCheck o)).outcome { tree } := by
  unfold writeOutput outputCheck
  rcases mode with careful | force
  · by_cases atomic : o.atomicWrite.isTruthy = true
    · simp [careful, atomic, Write.outcome_atomicallyIfFree]
    · by_cases standing : tree.hasEntry path = true
      · simp [careful, atomic, outcome_bind, Write.outcome_requireFree, standing]
      · simp [careful, atomic, outcome_bind, Write.outcome_requireFree, standing]
  · by_cases atomic : o.atomicWrite.isTruthy = true
    · simp [force, atomic]
    · simp [force, atomic]

/-- The two ways to write have the same outcome. With options that differ in nothing else, both
succeed or both fail; if they succeed the output holds the text, and otherwise no file has changed.
Only a text that has no encoding, if it is not checked, leaves other files behind a direct write: those
that a write of the empty text leaves. -/
theorem writeOutput_ways_agree
    {atomic direct : OutputSettings}
    (isAtomic : atomic.atomicWrite.isTruthy = true)
    (isDirect : direct.atomicWrite.isTruthy = false)
    (mode : direct.mode = .errorIfExists ∨ direct.mode = .force)
    (sameMode : atomic.mode = direct.mode)
    (sameCheck : atomic.validateBeforeWrite.isTruthy = direct.validateBeforeWrite.isTruthy)
    (base : Text) (tree : FileTree) (path : FilePath) (content : Text) :
    let first := (writeOutput base path content atomic).outcome { tree }
    let second := (writeOutput base path content direct).outcome { tree }
    (first.1 = .ok () ↔ second.1 = .ok ()) ∧
      (first.1 = .ok () → content.hasSurrogate = false ∧ first.2.tree.fileAt =
        Function.update tree.fileAt (placeOf path) (some (Utf8.encode content))) ∧
      (first.1 ≠ .ok () → first.2.tree.fileAt = tree.fileAt) ∧
      (content.hasSurrogate = false ∨ direct.validateBeforeWrite.isTruthy = true →
        second.2.tree.fileAt = first.2.tree.fileAt) ∧
      (content.hasSurrogate = true → direct.validateBeforeWrite.isTruthy = false →
        second.2.tree.fileAt =
          ((writeOutput base path [] atomic).outcome { tree }).2.tree.fileAt) := by
  intro first second
  have sameOutputCheck : outputCheck atomic = outputCheck direct := by
    rw [outputCheck, outputCheck, sameCheck]
  have modeAtomic : atomic.mode = .errorIfExists ∨ atomic.mode = .force := by rwa [sameMode]
  -- Both ways refuse what stands in the same way. Else each is its bare write, and has its effect.
  by_cases refused : direct.mode = .errorIfExists ∧ tree.hasEntry path = true
  · have kept (text : Text) : (writeOutput base path text atomic).outcome { tree } = _ :=
      (outcome_writeOutput modeAtomic).trans (if_pos (by rwa [sameMode]))
    have keptDirect : second = _ := (outcome_writeOutput mode).trans (if_pos refused)
    simp only [first, kept, keptDirect]
    simp
  · have wrote (text : Text) : (writeOutput base path text atomic).outcome { tree } =
        (Write.atomically base path text (outputCheck direct)).outcome { tree } := by
      rw [outcome_writeOutput modeAtomic, if_neg (by rwa [sameMode]), if_pos isAtomic,
        sameOutputCheck]
    have wroteDirect : second =
        (Write.directly base path content (outputCheck direct)).outcome { tree } := by
      simp only [second]
      rw [outcome_writeOutput mode, if_neg refused, if_neg (by simp [isDirect])]
    have effect := Write.directEffect_directly base tree path content (outputCheck direct)
    rw [← wroteDirect] at effect
    have files := effect.fileAt_eq
    have wroteAtomic : first = _ := wrote content
    have succeeds : first.1 = .ok () ↔ content.hasSurrogate = false ∧
        Write.verdict (outputCheck direct) content = .ok () ∧ Write.Admits base tree path := by
      rw [wroteAtomic]
      exact Write.atomically_eq_ok_iff
    refine ⟨succeeds.trans effect.eq_ok_iff.symm, fun done => ?_, fun failed => ?_,
      fun ordinary => ?_, fun surrogate unchecked => ?_⟩
    · rw [wroteAtomic]
      exact ⟨(succeeds.mp done).1, Write.fileAt_atomically_of_passes (succeeds.mp done)⟩
    · rw [wroteAtomic]
      exact Write.fileAt_atomically_of_fails (mt succeeds.mpr failed)
    · rw [files, if_neg]
      · rw [wroteAtomic]
      · rintro ⟨surrogate, passed⟩
        rw [verdict_outputCheck_of_hasSurrogate surrogate] at passed
        rcases ordinary with encodable | checked
        · rw [encodable] at surrogate
          cases surrogate
        · rw [checked] at passed
          cases passed
    · rw [files, if_pos ⟨surrogate, (verdict_outputCheck_of_hasSurrogate surrogate).mpr unchecked⟩,
        wrote]
      simp only [outputCheck, unchecked, Bool.false_eq_true, ↓reduceIte]

/-- A write of one line of code to a file in a directory that does not exist. -/
def writeNew (o : OutputSettings) : Attempt Unit × Disk :=
  (writeOutput (.ofString "/work") [.ofString "lib", .ofString "new", .ofString "point.py"]
    (.ofString "x = 1\n") o).outcome { tree := ⟨[([.ofString "lib"], .directory)]⟩ }

theorem writeOutput_ways_agree_new :
    (writeNew {}).1 = .ok () ∧ (writeNew { atomicWrite := .bool false }).1 = .ok () ∧
      (writeNew { atomicWrite := .bool false }).2.tree.fileAt = (writeNew {}).2.tree.fileAt := by
  obtain ⟨succeeds, -, -, sameFiles, -⟩ := @writeOutput_ways_agree {} { atomicWrite := .bool false }
    rfl rfl (Or.inl rfl) rfl rfl (.ofString "/work") ⟨[([.ofString "lib"], .directory)]⟩
    [.ofString "lib", .ofString "new", .ofString "point.py"] (.ofString "x = 1\n")
  have done : (writeNew {}).1 = .ok () := by decide +kernel
  unfold writeNew at done ⊢
  exact ⟨done, succeeds.mp done, sameFiles (Or.inr rfl)⟩

/-- A direct write of a text that has no encoding, if it is not checked, fails and yet empties its
target. The atomic write fails too and keeps it. -/
theorem writeOutput_empties_surrogate :
    let tree : FileTree :=
      ⟨[([.ofString "out.py"], .file (Utf8.encode (.ofString "keep = True\n")))]⟩
    let write (atomic : Bool) :=
      (writeOutput (.ofString "/work") [.ofString "out.py"] [CodePoint.ofNat 0xD800]
        ⟨.force, .bool false, .bool atomic⟩).outcome { tree }
    (write true).1 = .error .unencodable ∧ (write false).1 = .error .unencodable ∧
      (write true).2.tree.fileAt [.ofString "out.py"] =
        some (Utf8.encode (.ofString "keep = True\n")) ∧
      (write false).2.tree.fileAt [.ofString "out.py"] = some [] := by
  decide +kernel

end RecordGen.Command
