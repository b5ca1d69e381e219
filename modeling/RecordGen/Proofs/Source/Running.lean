import RecordGen.Source.Grammar.Reader
import Mathlib.Data.List.Basic

/-!
# Running readers

How the parts of a reader run one after the other: what a reader gives that begins with a step whose
result is known, which branch a leaf in front decides, and where a repetition stops. `Only` says what a
reader gives if it gives anything, so that no bound on the depth or the number of parts comes into it.
-/

namespace RecordGen.Source

namespace Reader

variable {α β : Type} {l : Leaf} {leaves rest : List Leaf} {holds : Leaf → Bool}

theorem run_sees : (sees holds).run leaves = some (leaves.head?.any holds, leaves) := rfl

theorem run_seesBehind :
    (seesBehind holds).run leaves = some ((leaves.drop 1).head?.any holds, leaves) := rfl

theorem run_take :
    (take holds).run (l :: rest) = if holds l then some (.leaf l, rest) else none := rfl

theorem run_bind
    (x : Reader α) (next : α → Reader β) :
    (x >>= next).run leaves = (x.run leaves).bind fun (a, rest) => (next a).run rest := rfl

theorem run_orElse (x y : Reader α) :
    (x <|> y).run leaves = (x.run leaves).or (y.run leaves) := by
  change (x.run leaves <|> y.run leaves) = _
  cases x.run leaves <;> rfl

theorem run_many_stop
    {step : Reader (List Tree)} {n : Nat}
    (stop : step.run leaves = some ([], rest)) :
    (many step (n + 1)).run leaves = some ([], rest) := by
  rw [many, run_bind, stop]
  rfl

theorem run_many_step
    {step : Reader (List Tree)} {n : Nat} {part : List Tree}
    (found : step.run leaves = some (part, rest))
    (nonempty : part ≠ []) :
    (many step (n + 1)).run leaves =
      ((many step n).run rest).map fun (others, last) => (part ++ others, last) := by
  have filled : part.isEmpty = false := by simpa using nonempty
  rw [many, run_bind, found]
  simp only [Option.bind_some, filled, Bool.false_eq_true, ↓reduceIte, run_bind]
  cases (many step n).run rest <;> rfl

theorem run_many_none
    {step : Reader (List Tree)} {n : Nat}
    (missing : step.run leaves = none) :
    (many step n).run leaves = none := by
  cases n with
  | zero => rfl
  | succ n => rw [many, run_bind, missing]; rfl

/-- Where the reader succeeds on the leaves, this is its result. -/
def Only (x : Reader α) (leaves : List Leaf) (result : Option (α × List Leaf)) : Prop :=
  x.run leaves = none ∨ x.run leaves = result

theorem Only.of_run
    {x : Reader α} {result : Option (α × List Leaf)}
    (same : x.run leaves = result) :
    Only x leaves result :=
  Or.inr same

theorem Only.run_eq_none
    {x : Reader α}
    (only : Only x leaves none) :
    x.run leaves = none :=
  or_self_iff.mp only

theorem Only.bind
    {x : Reader α} {next : α → Reader β} {a : α} {result : Option (β × List Leaf)}
    (first : Only x leaves (some (a, rest)))
    (second : Only (next a) rest result) :
    Only (x >>= next) leaves result := by
  rcases first with missing | found
  · exact Or.inl (by rw [run_bind, missing]; rfl)
  · rcases second with missing | same
    · exact Or.inl (by rw [run_bind, found]; exact missing)
    · exact Or.inr (by rw [run_bind, found]; exact same)

theorem run_bind_none
    {x : Reader α} {next : α → Reader β}
    (missing : x.run leaves = none) :
    (x >>= next).run leaves = none := by
  rw [run_bind, missing]
  rfl

theorem run_bind_some
    {x : Reader α} {next : α → Reader β} {a : α}
    (found : x.run leaves = some (a, rest)) :
    (x >>= next).run leaves = (next a).run rest := by
  rw [run_bind, found]
  rfl

theorem run_take_none
    (unseen : leaves.head?.any holds = false) :
    (take holds).run leaves = none := by
  cases leaves with
  | nil => rfl
  | cons l rest =>
      have other : holds l = false := unseen
      rw [run_take, other]
      rfl

theorem run_sees_bind
    {next : Bool → Reader α} {seen : Bool}
    (sight : leaves.head?.any holds = seen) :
    (sees holds >>= next).run leaves = (next seen).run leaves := by
  rw [run_bind, run_sees, sight]
  rfl

section Branches

variable {x y : Reader α} {s : String}

theorem run_seen
    (sight : leaves.head?.any holds = true) :
    (do if ← sees holds then x else y : Reader α).run leaves = x.run leaves :=
  run_sees_bind sight

theorem run_unseen
    (sight : leaves.head?.any holds = false) :
    (do if ← sees holds then x else y : Reader α).run leaves = y.run leaves :=
  run_sees_bind sight

theorem run_seenMark
    (sight : leaves.head?.any (·.isMark s) = true) :
    (do if ← seesMark s then x else y : Reader α).run leaves = x.run leaves :=
  run_seen sight

theorem run_unseenMark
    (sight : leaves.head?.any (·.isMark s) = false) :
    (do if ← seesMark s then x else y : Reader α).run leaves = y.run leaves :=
  run_unseen sight

theorem run_seenWord
    (sight : leaves.head?.any (·.isWord s) = true) :
    (do if ← seesWord s then x else y : Reader α).run leaves = x.run leaves :=
  run_seen sight

theorem run_unseenWord
    (sight : leaves.head?.any (·.isWord s) = false) :
    (do if ← seesWord s then x else y : Reader α).run leaves = y.run leaves :=
  run_unseen sight

end Branches

theorem Only.congr
    {x y : Reader α} {result : Option (α × List Leaf)}
    (same : x.run leaves = y.run leaves)
    (only : Only y leaves result) :
    Only x leaves result := by
  rwa [Only, same]

end Reader

end RecordGen.Source
