import WasmBridge.Proofs.Context.Ends

/-!
# Ends amid others

While a thread waits, others may change the shared state.  Where something is known of
what they do, the thread comes to fewer ends: `EndsAmid` are the ends when every change
made meanwhile is one of a given relation.
-/

namespace WasmBridge

namespace Thread

variable {σ α β : Type} {others : σ → σ → Prop}

/-- The ends a thread can come to when the state changes, while it waits, only as
others change it. -/
inductive EndsAmid (others : σ → σ → Prop) : Thread σ α → σ → α → Prop where
  | done (state : σ) (value : α) : EndsAmid others (.done state value) state value
  | resume {state later final : σ} {ready : σ → Bool} {resume : σ → Thread σ α} {value : α}
      (changed : others state later) (met : ready later = true)
      (ends : EndsAmid others (resume later) final value) :
      EndsAmid others (.waiting state ready resume) final value

theorem endsAmid_done_iff {state final : σ} {value answer : α} :
    EndsAmid others (.done state value) final answer ↔ answer = value ∧ final = state := by
  constructor
  · intro ends
    cases ends
    exact ⟨rfl, rfl⟩
  · rintro ⟨rfl, rfl⟩
    exact .done final answer

theorem endsAmid_andThen_iff {next : α → Action σ β} {thread : Thread σ α} {final : σ}
    {value : β} :
    EndsAmid others (andThen next thread) final value ↔
      ∃ middle first, EndsAmid others thread middle first ∧
        EndsAmid others (next first middle) final value := by
  constructor
  · intro ends
    induction thread with
    | done state first => exact ⟨state, first, .done state first, ends⟩
    | waiting state ready resume ih =>
        cases ends with
        | resume changed met ends =>
            obtain ⟨middle, first, before, after⟩ := ih _ ends
            exact ⟨middle, first, .resume changed met before, after⟩
  · rintro ⟨middle, first, before, after⟩
    induction before with
    | done => exact after
    | resume changed met _ ih => exact .resume changed met (ih after)

end Thread

namespace Activity

variable {α β : Type} {others : Shared → Shared → Prop} {before after : Moment}

/-- An activity that begins at a moment can end at another with an answer, if others
change the shared state only in this way while it waits. -/
def EndsAmid (others : Shared → Shared → Prop) (activity : Activity α) (before : Moment)
    (answer : α) (after : Moment) : Prop :=
  Thread.EndsAmid others (activity before.1 before.2) after.2 (answer, after.1)

/-- An activity that never waits has one end. -/
theorem endsAmid_of_done {activity : Activity α} {value answer : α} {last : Moment}
    (done : activity before.1 before.2 = .done last.2 (value, last.1)) :
    activity.EndsAmid others before answer after ↔ answer = value ∧ after = last := by
  unfold EndsAmid
  rw [done, Thread.endsAmid_done_iff, Prod.mk.injEq, Prod.ext_iff, and_assoc]

theorem endsAmid_pure_iff {value answer : α} :
    (pure value : Activity α).EndsAmid others before answer after ↔
      answer = value ∧ after = before :=
  endsAmid_of_done rfl

theorem endsAmid_bind_iff {activity : Activity α} {next : α → Activity β} {answer : β} :
    (activity >>= next).EndsAmid others before answer after ↔
      ∃ value middle, activity.EndsAmid others before value middle ∧
        (next value).EndsAmid others middle answer after := by
  constructor
  · intro ends
    obtain ⟨shared, ⟨value, context⟩, first, second⟩ := Thread.endsAmid_andThen_iff.mp ends
    exact ⟨value, (context, shared), first, second⟩
  · rintro ⟨value, middle, first, second⟩
    exact Thread.endsAmid_andThen_iff.mpr ⟨middle.2, (value, middle.1), first, second⟩

theorem endsAmid_run_bind_iff {ε : Type} {attempt : ExceptT ε Activity α}
    {next : α → ExceptT ε Activity β} {result : Except ε β} :
    (attempt >>= next).run.EndsAmid others before result after ↔
      (∃ error, attempt.run.EndsAmid others before (.error error) after ∧ result = .error error) ∨
      ∃ value middle, attempt.run.EndsAmid others before (.ok value) middle ∧
        (next value).run.EndsAmid others middle result after := by
  rw [ExceptT.run_bind, endsAmid_bind_iff]
  constructor
  · rintro ⟨first, middle, ends, rest⟩
    cases first with
    | error error =>
        obtain ⟨rfl, rfl⟩ := endsAmid_pure_iff.mp rest
        exact .inl ⟨error, ends, rfl⟩
    | ok value => exact .inr ⟨value, middle, ends, rest⟩
  · rintro (⟨error, ends, rfl⟩ | ⟨value, middle, ends, rest⟩)
    · exact ⟨.error error, after, ends, endsAmid_pure_iff.mpr ⟨rfl, rfl⟩⟩
    · exact ⟨.ok value, middle, ends, rest⟩

theorem endsAmid_run_lift_iff {ε : Type} {activity : Activity α} {result : Except ε α} :
    (liftM activity : ExceptT ε Activity α).run.EndsAmid others before result after ↔
      ∃ value, result = .ok value ∧ activity.EndsAmid others before value after := by
  change (activity >>= fun value => pure (.ok value)).EndsAmid others before result after ↔ _
  rw [endsAmid_bind_iff]
  constructor
  · rintro ⟨value, middle, ends, rest⟩
    obtain ⟨rfl, rfl⟩ := endsAmid_pure_iff.mp rest
    exact ⟨value, rfl, ends⟩
  · rintro ⟨value, rfl, ends⟩
    exact ⟨value, after, ends, endsAmid_pure_iff.mpr ⟨rfl, rfl⟩⟩

variable {context : Context} {shared : Shared} {ready : Shared → Bool}

theorem waitUntil_of_ready (met : ready shared = true) :
    waitUntil ready context shared = .done shared ((), context) := by
  change Thread.andThen _ (if ready shared then _ else _) = _
  rw [if_pos met]
  rfl

theorem waitUntil_of_not_ready (unmet : ready shared = false) :
    waitUntil ready context shared =
      .waiting shared ready fun later => .done later ((), context) := by
  change Thread.andThen _ (if ready shared then _ else _) = _
  rw [if_neg (by simp [unmet])]
  rfl

/-- Waiting leaves the shared state as it is or as others left it. -/
theorem unchanged_of_waitUntil (ends : (waitUntil ready).EndsAmid others before () after) :
    after.1 = before.1 ∧ (after.2 = before.2 ∨ others before.2 after.2) := by
  cases met : ready before.2 with
  | true =>
      obtain ⟨-, rfl⟩ := (endsAmid_of_done (waitUntil_of_ready met)).mp ends
      exact ⟨rfl, Or.inl rfl⟩
  | false =>
      unfold EndsAmid at ends
      rw [waitUntil_of_not_ready met] at ends
      cases ends with
      | resume changed _ rest =>
          obtain ⟨same, rfl⟩ := Thread.endsAmid_done_iff.mp rest
          exact ⟨congrArg Prod.snd same, Or.inr changed⟩

end Activity

end WasmBridge
