import RecordGen.Proofs.Json.Reading
import Mathlib.Data.List.Nodup

/-!
# Names in documents

A decoded document names each member of an object once, however often the text repeats the name:
`NamesOnce` holds of every value that a text or octets are read as.
-/

namespace RecordGen.Json

/-! ## Values -/

/-- Every object of the value, at any depth, names each of its members once. -/
inductive Value.NamesOnce : Value → Prop
  | null : NamesOnce .null
  | bool (b : Bool) : NamesOnce (.bool b)
  | int (i : Int) : NamesOnce (.int i)
  | float (x : Binary64) : NamesOnce (.float x)
  | str (t : Text) : NamesOnce (.str t)
  | arr {items : List Value} : (∀ item ∈ items, item.NamesOnce) → NamesOnce (.arr items)
  | obj {members : Members} :
      (members.map Prod.fst).Nodup → (∀ member ∈ members, member.2.NamesOnce) →
        NamesOnce (.obj members)

namespace Members

/-- The names of setting a member: the old ones, or also the new one at the end if it is new. -/
theorem map_fst_set
    (members : Members) (name : Text) (value : Value) :
    (name ∈ members.map Prod.fst ∧
        (members.set name value).map Prod.fst = members.map Prod.fst) ∨
      (name ∉ members.map Prod.fst ∧
        (members.set name value).map Prod.fst = members.map Prod.fst ++ [name]) := by
  induction members with
  | nil =>
      simp [set]
  | cons head rest inductionHypothesis =>
      by_cases same : head.1 = name
      · simp [set, same]
      · have other : name ≠ head.1 := Ne.symm same
        simp only [set, same, ↓reduceIte, List.map_cons, List.mem_cons, other, false_or,
          List.cons_append, List.cons.injEq, true_and]
        exact inductionHypothesis

theorem mem_set
    {members : Members} {name : Text} {value : Value} {member : Text × Value}
    (present : member ∈ members.set name value) :
    member = (name, value) ∨ member ∈ members := by
  induction members with
  | nil =>
      simpa [set] using present
  | cons head rest inductionHypothesis =>
      by_cases same : head.1 = name
      · simp only [set, same, ↓reduceIte, List.mem_cons] at present ⊢
        tauto
      · simp only [set, same, ↓reduceIte, List.mem_cons] at present ⊢
        rcases present with first | later
        · exact Or.inr (Or.inl first)
        · exact (inductionHypothesis later).imp_right Or.inr

/-- Setting a member keeps every name single. -/
theorem namesOnce_set
    {members : Members} {name : Text} {value : Value}
    (whole : (Value.obj members).NamesOnce)
    (part : value.NamesOnce) :
    (Value.obj (members.set name value)).NamesOnce := by
  cases whole with
  | obj single parts =>
      refine .obj ?_ ?_
      · rcases map_fst_set members name value with ⟨-, kept⟩ | ⟨fresh, extended⟩
        · rw [kept]
          exact single
        · rw [extended, ← List.concat_eq_append]
          exact single.concat fresh
      · intro member present
        rcases mem_set present with rfl | old
        · exact part
        · exact parts member old

end Members

/-! ## Documents -/

theorem namesOnce_numeral
    {n : Numeral} {value : Value}
    (converted : n.value = .ok value) :
    value.NamesOnce := by
  unfold Numeral.value at converted
  split at converted
  · split at converted
    · cases converted
    · cases converted
      exact .int _
  · cases converted
    exact .float _

theorem isInherited_namesOnce : IsInherited Value.NamesOnce where
  word := by
    simp only [words, List.forall_mem_cons]
    exact ⟨.null, .bool true, .bool false, .float .nan, .float _, .float _, by simp⟩
  text := .str
  numeral _ := namesOnce_numeral
  array := .arr
  object := .obj List.nodup_nil (by simp)
  member := Members.namesOnce_set

/-- A document, text or octets, names the members of every object once. -/
theorem namesOnce_of_value
    {document : Document} {value : Value}
    (done : document.value = .ok value) :
    value.NamesOnce :=
  holds_of_value isInherited_namesOnce done

end RecordGen.Json
