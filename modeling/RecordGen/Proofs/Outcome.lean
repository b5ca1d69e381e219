import RecordGen.Text

/-!
# Outcomes of steps

How the steps of a computation that may fail decide its outcome. A chain of steps succeeds exactly
when each of them does, so a successful run is taken apart step by step, and an invariant of the
steps is an invariant of the run.
-/

namespace RecordGen

universe u v w

variable {ε : Type u} {α : Type v} {β : Type v} {σ : Type w}

theorem ok_bind (value : α) (next : α → Except ε β) : (Except.ok value >>= next) = next value := rfl

theorem bind_eq_ok
    {step : Except ε α} {next : α → Except ε β} {result : β} :
    (step >>= next) = .ok result ↔ ∃ value, step = .ok value ∧ next value = .ok result := by
  cases step <;> simp [bind, Except.bind]

theorem bind_eq_error
    {step : Except ε α} {next : α → Except ε β} {failure : ε} :
    (step >>= next) = .error failure ↔
      step = .error failure ∨ ∃ value, step = .ok value ∧ next value = .error failure := by
  cases step <;> simp [bind, Except.bind]

theorem map_eq_ok
    {step : Except ε α} {f : α → β} {result : β} :
    step.map f = .ok result ↔ ∃ value, step = .ok value ∧ f value = result := by
  cases step <;> simp [Except.map]

theorem map_eq_error
    {step : Except ε α} {f : α → β} {failure : ε} :
    step.map f = .error failure ↔ step = .error failure := by
  cases step <;> simp [Except.map]

theorem mapError_ok (f : ε → σ) (value : α) : (Except.ok value).mapError f = .ok value := rfl

theorem mapError_error (f : ε → σ) (failure : ε) :
    (Except.error failure : Except ε α).mapError f = .error (f failure) := rfl

theorem mapError_eq_ok
    {step : Except ε α} {f : ε → σ} {result : α} :
    step.mapError f = .ok result ↔ step = .ok result := by
  cases step with
  | ok value => simp only [mapError_ok, Except.ok.injEq]
  | error failure => simp only [mapError_error, reduceCtorEq]

theorem mapError_eq_error
    {step : Except ε α} {f : ε → σ} {failure : σ} :
    step.mapError f = .error failure ↔ ∃ reason, step = .error reason ∧ f reason = failure := by
  cases step with
  | ok value => simp only [mapError_ok, reduceCtorEq, false_and, exists_false]
  | error reason => simp only [mapError_error, Except.error.injEq, exists_eq_left']

theorem exists_ok_of_isSome
    {step : Except ε α}
    (present : step.toOption.isSome = true) :
    ∃ value, step = .ok value := by
  cases step with
  | ok value => exact ⟨value, rfl⟩
  | error failure => cases present

/-- What every step keeps, a run of steps keeps. -/
theorem foldlM_preserves
    {invariant : α → Prop} {step : α → σ → Except ε α} {items : List σ}
    (kept : ∀ item ∈ items, ∀ state next,
      invariant state → step state item = .ok next → invariant next) :
    ∀ {state last : α}, invariant state → items.foldlM step state = .ok last → invariant last := by
  induction items with
  | nil =>
      intro state last start run
      cases run
      exact start
  | cons item rest inductionHypothesis =>
      intro state last start run
      rw [List.foldlM_cons, bind_eq_ok] at run
      obtain ⟨next, first, others⟩ := run
      have keptByRest : ∀ other ∈ rest, ∀ state next,
          invariant state → step state other = .ok next → invariant next :=
        fun other member => kept other (List.mem_cons_of_mem item member)
      exact inductionHypothesis keptByRest
        (kept item List.mem_cons_self state next start first) others

/-- Runs from states that look the same end in the same way, up to that look, if the steps do. -/
theorem map_foldlM_congr
    {look : α → β} {step : α → σ → Except ε α} {items : List σ}
    (steps : ∀ item ∈ items, ∀ left right, look left = look right →
      (step left item).map look = (step right item).map look) :
    ∀ {left right : α}, look left = look right →
      (items.foldlM step left).map look = (items.foldlM step right).map look := by
  induction items with
  | nil =>
      intro left right same
      exact congrArg Except.ok same
  | cons item rest inductionHypothesis =>
      intro left right same
      obtain ⟨own, others⟩ := List.forall_mem_cons.mp steps
      have stepped := own left right same
      rw [List.foldlM_cons, List.foldlM_cons]
      cases first : step left item with
      | error failure =>
          rw [first] at stepped
          rw [map_eq_error.mp stepped.symm]
      | ok next =>
          rw [first] at stepped
          obtain ⟨other, second, sameNext⟩ := map_eq_ok.mp stepped.symm
          rw [second, ok_bind, ok_bind]
          exact inductionHypothesis others sameNext.symm

/-- A run that fails has come to an item at which its step fails. -/
theorem exists_step_eq_error
    {step : α → σ → Except ε α} {items : List σ} {failure : ε} :
    ∀ {state : α}, items.foldlM step state = .error failure →
      ∃ before item after middle, items = before ++ item :: after ∧
        before.foldlM step state = .ok middle ∧ step middle item = .error failure := by
  induction items with
  | nil =>
      intro state run
      cases run
  | cons item rest inductionHypothesis =>
      intro state run
      rw [List.foldlM_cons, bind_eq_error] at run
      rcases run with failed | ⟨next, first, later⟩
      · exact ⟨[], item, rest, state, rfl, rfl, failed⟩
      · obtain ⟨before, failing, after, middle, rfl, others, failed⟩ := inductionHypothesis later
        refine ⟨item :: before, failing, after, middle, rfl, ?_, failed⟩
        rw [List.foldlM_cons, first]
        exact others

end RecordGen
