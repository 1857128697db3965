/-!
# Threads that wait

An action works on a state that it shares with other threads.  It either runs to
its end or comes to a point where it waits for the state to meet a condition;
there others may go on and change the state.  `Thread.Ends` relates a thread to
the states and values it can end with, whatever others do while it waits.
What is waited for in vain has no value, and whoever needs it never goes on; so
steps are taken without a bound until there is an answer.
-/

/-- The value that somebody waits for.  Where there is none the wait never ends. -/
def Option.awaited {α : Type} [Nonempty α] (answer : Option α) : α :=
  match answer with
  | some value => value
  | none => by
    apply Option.awaited
    exact answer
partial_fixpoint

namespace WasmBridge

/-! ## Steps without end -/

section

variable {σ α : Type} (step : σ → α ⊕ Option σ)

/-- Take steps until there is an answer.  There is no value if a step leads nowhere, or if there
is always another one. -/
def untilAnswer? (state : σ) : Option α :=
  match step state with
  | .inl answer => some answer
  -- By name, since a call that is written out leaves its place in the text behind in the term.
  | .inr next => next >>= by apply untilAnswer?
partial_fixpoint

variable {step} {state next : σ} {answer : α}

theorem untilAnswer?_of_answer (found : step state = .inl answer) :
    untilAnswer? step state = some answer := by
  rw [untilAnswer?, found]

theorem untilAnswer?_of_next (goes : step state = .inr (some next)) :
    untilAnswer? step state = untilAnswer? step next := by
  rw [untilAnswer?, goes]
  rfl

/-- What every step keeps holds when there is an answer. -/
theorem untilAnswer?_of_kept (kept : σ → Prop) (post : α → Prop)
    (ends : ∀ state answer, kept state → step state = .inl answer → post answer)
    (goesOn : ∀ state next, kept state → step state = .inr (some next) → kept next)
    (holds : kept state) (comes : untilAnswer? step state = some answer) : post answer := by
  refine untilAnswer?.partial_correctness step
    (fun state answer => kept state → post answer) ?_ state answer comes holds
  intro again ih state answer comes holds
  split at comes
  next found =>
    cases comes
    exact ends state _ holds found
  next found =>
    obtain ⟨later, rfl, rest⟩ := Option.bind_eq_some_iff.mp comes
    exact ih later answer rest (goesOn state later holds found)

end

/-! ## Threads -/

/-- A thread that works on states of type `σ` and ends with an `α`. -/
inductive Thread (σ α : Type) where
  /-- The thread ended. -/
  | done (state : σ) (value : α)
  /-- The thread goes on from a later state once that one meets the condition. -/
  | waiting (state : σ) (ready : σ → Bool) (resume : σ → Thread σ α)

/-- What a thread does from a state on. -/
def Action (σ α : Type) := σ → Thread σ α

namespace Thread

variable {σ α β : Type}

/-- Go on after a thread with what it ends with. -/
def andThen (next : α → Action σ β) : Thread σ α → Thread σ β
  | done state value => next value state
  | waiting state ready resume => waiting state ready fun later => andThen next (resume later)

/-- The state a thread left when it ended or began to wait. -/
def state : Thread σ α → σ
  | done state _ => state
  | waiting state _ _ => state

/-- The ends a thread can come to.  While it waits the state may become any
other that meets the condition. -/
inductive Ends : Thread σ α → σ → α → Prop where
  | done (state : σ) (value : α) : Ends (.done state value) state value
  | resume {state later final : σ} {ready : σ → Bool} {resume : σ → Thread σ α} {value : α}
      (met : ready later = true) (ends : Ends (resume later) final value) :
      Ends (.waiting state ready resume) final value

/-- A thread followed by another ends as the other does from an end of the first. -/
theorem ends_andThen_iff {next : α → Action σ β} {thread : Thread σ α} {final : σ} {value : β} :
    Ends (andThen next thread) final value
      ↔ ∃ middle first, Ends thread middle first ∧ Ends (next first middle) final value := by
  constructor
  · intro ends
    induction thread with
    | done state first => exact ⟨state, first, .done state first, ends⟩
    | waiting state ready resume ih =>
      cases ends with
      | resume met ends =>
        obtain ⟨middle, first, before, after⟩ := ih _ ends
        exact ⟨middle, first, .resume met before, after⟩
  · rintro ⟨middle, first, before, after⟩
    induction before with
    | done => exact after
    | resume met _ ih => exact .resume met (ih after)

end Thread

namespace Action

variable {σ α β : Type}

/-- End with a value at once. -/
def pure (value : α) : Action σ α := fun state => .done state value

/-- One action after another. -/
def bind (action : Action σ α) (next : α → Action σ β) : Action σ β := fun state =>
  (action state).andThen next

instance : Monad (Action σ) where
  pure := pure
  bind := bind

instance : MonadStateOf σ (Action σ) where
  get := fun state => .done state state
  set := fun state _ => .done state ()
  modifyGet := fun change state => let (value, state) := change state; .done state value

/-- Wait until the state meets a condition, not at all if it does already. -/
def waitUntil (ready : σ → Bool) : Action σ Unit := fun state =>
  if ready state then .done state ()
  else .waiting state ready fun later => .done later ()

end Action

end WasmBridge
