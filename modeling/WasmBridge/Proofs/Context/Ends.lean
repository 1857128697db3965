import WasmBridge.Context.Basic

/-!
# How activities end

An activity begins at a moment, the state of its context and what all contexts
share, and can end at others with an answer.  The ends of an activity are those of
its parts, one after the other.
-/

namespace WasmBridge

/-! ## Laws of actions -/

namespace Thread

variable {σ α β γ : Type}

theorem ends_done_iff {state final : σ} {value answer : α} :
    Ends (.done state value) final answer ↔ answer = value ∧ final = state := by
  constructor
  · intro ends
    cases ends
    exact ⟨rfl, rfl⟩
  · rintro ⟨rfl, rfl⟩
    exact .done final answer

theorem andThen_pure (thread : Thread σ α) : andThen Action.pure thread = thread := by
  induction thread with
  | done state value => rfl
  | waiting state ready resume ih => rw [andThen, funext ih]

theorem andThen_assoc (thread : Thread σ α) (next : α → Action σ β) (last : β → Action σ γ) :
    andThen last (andThen next thread) =
      andThen (fun value => Action.bind (next value) last) thread := by
  induction thread with
  | done state value => rfl
  | waiting state ready resume ih => rw [andThen, andThen, andThen, funext ih]

end Thread

instance Action.lawful {σ : Type} : LawfulMonad (Action σ) :=
  LawfulMonad.mk' _
    (fun action => funext fun state => Thread.andThen_pure (action state))
    (fun _ _ => rfl)
    (fun action _ _ => funext fun state => Thread.andThen_assoc (action state) _ _)

/-! ## Moments and ends -/

/-- A context as it is, and what it shares with the others. -/
abbrev Moment := Context × Shared

namespace Activity

variable {α β ε : Type} {before after : Moment}

/-- An activity that begins at a moment can end at another with an answer, whatever
other threads do while it waits. -/
def Ends (activity : Activity α) (before : Moment) (answer : α) (after : Moment) : Prop :=
  Thread.Ends (activity before.1 before.2) after.2 (answer, after.1)

/-- An activity that never waits has one end. -/
theorem ends_of_done {activity : Activity α} {value answer : α} {last : Moment}
    (done : activity before.1 before.2 = .done last.2 (value, last.1)) :
    activity.Ends before answer after ↔ answer = value ∧ after = last := by
  unfold Ends
  rw [done, Thread.ends_done_iff, Prod.mk.injEq, Prod.ext_iff, and_assoc]

theorem ends_pure_iff {value answer : α} :
    (pure value : Activity α).Ends before answer after ↔ answer = value ∧ after = before :=
  ends_of_done rfl

theorem ends_bind_iff {activity : Activity α} {next : α → Activity β} {answer : β} :
    (activity >>= next).Ends before answer after ↔
      ∃ value middle, activity.Ends before value middle ∧
        (next value).Ends middle answer after := by
  constructor
  · intro ends
    obtain ⟨shared, ⟨value, context⟩, first, second⟩ := Thread.ends_andThen_iff.mp ends
    exact ⟨value, (context, shared), first, second⟩
  · rintro ⟨value, middle, first, second⟩
    exact Thread.ends_andThen_iff.mpr ⟨middle.2, (value, middle.1), first, second⟩

theorem ends_get_iff {answer : Context} :
    (get : Activity Context).Ends before answer after ↔ answer = before.1 ∧ after = before :=
  ends_of_done rfl

theorem ends_shared_iff {answer : Shared} :
    shared.Ends before answer after ↔ answer = before.2 ∧ after = before :=
  ends_of_done rfl

theorem ends_changeShared_iff {change : Shared → α × Shared} {answer : α} :
    (changeShared change).Ends before answer after ↔
      answer = (change before.2).1 ∧ after = (before.1, (change before.2).2) :=
  ends_of_done rfl

/-! ## Attempts -/

theorem ends_run_bind_iff {attempt : ExceptT ε Activity α} {next : α → ExceptT ε Activity β}
    {result : Except ε β} :
    Ends (attempt >>= next).run before result after ↔
      (∃ error, attempt.run.Ends before (.error error) after ∧ result = .error error) ∨
      ∃ value middle, attempt.run.Ends before (.ok value) middle ∧
        (next value).run.Ends middle result after := by
  rw [ExceptT.run_bind, ends_bind_iff]
  constructor
  · rintro ⟨first, middle, ends, rest⟩
    cases first with
    | error error =>
        obtain ⟨rfl, rfl⟩ := ends_pure_iff.mp rest
        exact Or.inl ⟨error, ends, rfl⟩
    | ok value => exact Or.inr ⟨value, middle, ends, rest⟩
  · rintro (⟨error, ends, rfl⟩ | ⟨value, middle, ends, rest⟩)
    · exact ⟨.error error, after, ends, ends_pure_iff.mpr ⟨rfl, rfl⟩⟩
    · exact ⟨.ok value, middle, ends, rest⟩

theorem ends_run_lift_iff {activity : Activity α} {result : Except ε α} :
    Ends (liftM activity : ExceptT ε Activity α).run before result after ↔
      ∃ value, result = .ok value ∧ activity.Ends before value after := by
  change Ends (activity >>= fun value => pure (.ok value)) before result after ↔ _
  rw [ends_bind_iff]
  constructor
  · rintro ⟨value, middle, ends, rest⟩
    obtain ⟨rfl, rfl⟩ := ends_pure_iff.mp rest
    exact ⟨value, rfl, ends⟩
  · rintro ⟨value, rfl, ends⟩
    exact ⟨value, after, ends, ends_pure_iff.mpr ⟨rfl, rfl⟩⟩

theorem ends_run_adapt_iff {δ : Type} {change : ε → δ} {attempt : ExceptT ε Activity α}
    {result : Except δ α} :
    Ends (attempt.adapt change).run before result after ↔
      ∃ first, result = first.mapError change ∧ attempt.run.Ends before first after := by
  change Ends (attempt.run >>= fun first => pure (first.mapError change)) before result after ↔ _
  rw [ends_bind_iff]
  constructor
  · rintro ⟨first, middle, ends, rest⟩
    obtain ⟨rfl, rfl⟩ := ends_pure_iff.mp rest
    exact ⟨first, rfl, ends⟩
  · rintro ⟨first, rfl, ends⟩
    exact ⟨first, after, ends, ends_pure_iff.mpr ⟨rfl, rfl⟩⟩

/-! ## Inspections -/

/-- An activity that leaves everything as it was. -/
def Inspects (activity : Activity α) : Prop :=
  ∀ before answer after, activity.Ends before answer after → after = before

theorem Inspects.of_pure (value : α) : Inspects (pure value) := by
  intro before answer after ends
  exact (ends_pure_iff.mp ends).2

theorem Inspects.of_get : Inspects (get : Activity Context) := by
  intro before answer after ends
  exact (ends_get_iff.mp ends).2

theorem Inspects.of_shared : Inspects shared := by
  intro before answer after ends
  exact (ends_shared_iff.mp ends).2

theorem Inspects.of_except (result : Except ε α) :
    Inspects (ExceptT.mk (pure result) : ExceptT ε Activity α).run :=
  .of_pure result

theorem Inspects.of_throw (error : ε) : Inspects (throw error : ExceptT ε Activity α).run :=
  .of_pure (Except.error error)

theorem Inspects.bind {activity : Activity α} {next : α → Activity β}
    (first : activity.Inspects) (rest : ∀ value, (next value).Inspects) :
    (activity >>= next).Inspects := by
  intro before answer after ends
  obtain ⟨value, middle, early, late⟩ := ends_bind_iff.mp ends
  rw [rest value _ _ _ late, first _ _ _ early]

theorem Inspects.run_bind {attempt : ExceptT ε Activity α} {next : α → ExceptT ε Activity β}
    (first : attempt.run.Inspects) (rest : ∀ value, (next value).run.Inspects) :
    (attempt >>= next).run.Inspects := by
  intro before result after ends
  rcases ends_run_bind_iff.mp ends with ⟨error, early, -⟩ | ⟨value, middle, early, late⟩
  · exact first _ _ _ early
  · rw [rest value _ _ _ late, first _ _ _ early]

theorem Inspects.run_lift {activity : Activity α} (inspects : activity.Inspects) :
    Inspects (liftM activity : ExceptT ε Activity α).run := by
  intro before result after ends
  obtain ⟨value, -, early⟩ := ends_run_lift_iff.mp ends
  exact inspects _ _ _ early

theorem Inspects.run_adapt {δ : Type} {change : ε → δ} {attempt : ExceptT ε Activity α}
    (inspects : attempt.run.Inspects) : (attempt.adapt change).run.Inspects := by
  intro before result after ends
  obtain ⟨first, -, early⟩ := ends_run_adapt_iff.mp ends
  exact inspects _ _ _ early

/-! ## Failing ends -/

/-- Every end with an error, of an attempt that begins at a moment, is within bounds. -/
def FailsInto (bounds : Moment → Prop) (before : Moment) (attempt : ExceptT ε Activity α) :
    Prop :=
  ∀ error after, attempt.run.Ends before (.error error) after → bounds after

/-- An attempt that never ends with an error. -/
def Succeeds (attempt : ExceptT ε Activity α) : Prop :=
  ∀ before, FailsInto (fun _ => False) before attempt

variable {bounds : Moment → Prop} {attempt : ExceptT ε Activity α}
  {next : α → ExceptT ε Activity β}

theorem Succeeds.of_pure (value : α) : Succeeds (pure value : ExceptT ε Activity α) := by
  intro before error after ends
  obtain ⟨impossible, -⟩ := ends_pure_iff.mp ends
  cases impossible

theorem Succeeds.of_lift (activity : Activity α) :
    Succeeds (liftM activity : ExceptT ε Activity α) := by
  intro before error after ends
  obtain ⟨value, impossible, -⟩ := ends_run_lift_iff.mp ends
  cases impossible

theorem Succeeds.bind (first : Succeeds attempt) (rest : ∀ value, Succeeds (next value)) :
    Succeeds (attempt >>= next) := by
  intro before error after ends
  rcases ends_run_bind_iff.mp ends with ⟨error, early, -⟩ | ⟨value, middle, -, late⟩
  · exact first _ _ _ early
  · exact rest value _ _ _ late

theorem FailsInto.of_succeeds (succeeds : Succeeds attempt) : FailsInto bounds before attempt := by
  intro error after ends
  exact (succeeds _ _ _ ends).elim

theorem FailsInto.of_inspects (here : bounds before) (inspects : attempt.run.Inspects) :
    FailsInto bounds before attempt := by
  intro error after ends
  rw [inspects _ _ _ ends]
  exact here

/-- After an inspection the attempt goes on from the moment where it began. -/
theorem FailsInto.bind (here : bounds before) (first : attempt.run.Inspects)
    (rest : ∀ value, attempt.run.Ends before (.ok value) before →
      FailsInto bounds before (next value)) :
    FailsInto bounds before (attempt >>= next) := by
  intro error after ends
  rcases ends_run_bind_iff.mp ends with ⟨error, early, -⟩ | ⟨value, middle, early, late⟩
  · rw [first _ _ _ early]
    exact here
  · obtain rfl : middle = before := first _ _ _ early
    exact rest value early _ _ late

/-- An attempt within the bounds may be followed by what fails into them from there. -/
theorem FailsInto.bind_within
    (first : ∀ result after, attempt.run.Ends before result after → bounds after)
    (rest : ∀ value middle, bounds middle → FailsInto bounds middle (next value)) :
    FailsInto bounds before (attempt >>= next) := by
  intro error after ends
  rcases ends_run_bind_iff.mp ends with ⟨error, early, -⟩ | ⟨value, middle, early, late⟩
  · exact first _ _ early
  · exact rest value middle (first _ _ early) _ _ late

/-- What never fails may follow. -/
theorem FailsInto.bind_succeeds (first : FailsInto bounds before attempt)
    (rest : ∀ value, Succeeds (next value)) : FailsInto bounds before (attempt >>= next) := by
  intro error after ends
  rcases ends_run_bind_iff.mp ends with ⟨error, early, -⟩ | ⟨value, middle, -, late⟩
  · exact first _ _ early
  · exact (rest value _ _ _ late).elim

/-- A fault may be reported in other words. -/
theorem FailsInto.adapt {δ : Type} {change : ε → δ} (first : FailsInto bounds before attempt) :
    FailsInto bounds before (attempt.adapt change) := by
  intro error after ends
  obtain ⟨result, outcome, early⟩ := ends_run_adapt_iff.mp ends
  cases result with
  | error cause => exact first _ _ early
  | ok value => cases outcome

end Activity

end WasmBridge
