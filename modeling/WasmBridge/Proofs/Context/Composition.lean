import WasmBridge.Proofs.Context.Serving

/-!
# What contexts do is composed

Whatever a context does, from its start to the end of its guest, is composed of steps of its
own, of waiting, and of calls and messages that enter it again.  What keeps to an instance is
composed; setting an instance up and binding its bridge is the rest.
-/

namespace WasmBridge

/--
An activity that enters the context again in whatever way it is given: composed of own
steps and of what it enters, and of waiting and sending messages if code of the guest is part
of it.  An own step knows nothing of the way, and its events are allowed.
-/
inductive Composed (host : Host) (ofGuest : Prop) (allows : Context.Event → Prop) :
    {α : Type} → (Reentry → Activity α) → Prop where
  | own {α : Type} {activity : Activity α}
      (steps : ∀ before : Moment, ∃ answer after events,
        activity before.1 before.2 = .done after.2 (answer, after.1) ∧
          OwnStep host before after ∧ before.1.Step events after.1 ∧
          ∀ event ∈ events, allows event) :
      Composed host ofGuest allows fun _ => activity
  | wait (guest : ofGuest) (ready : Shared → Bool) :
      Composed host ofGuest allows fun _ => Activity.waitUntil ready
  | call (designator : Wasm.Designator) (args : List Wasm.Value) :
      Composed host ofGuest allows fun again => again.call designator args
  | route (envelope : Wire.Envelope) :
      Composed host ofGuest allows fun again => again.route envelope
  | deliver (guest : ofGuest) (envelope : Wire.Envelope) :
      Composed host ofGuest allows fun again => again.deliver envelope
  | bind {α β : Type} {activity : Reentry → Activity α} {next : α → Reentry → Activity β}
      (first : Composed host ofGuest allows activity)
      (rest : ∀ value, Composed host ofGuest allows (next value)) :
      Composed host ofGuest allows fun again => activity again >>= fun value => next value again

variable {host : Host} {ofGuest : Prop} {allows : Context.Event → Prop} {α β ε : Type}

/-- What keeps to an instance is composed. -/
theorem Confined.composed {activity : Reentry → Activity α}
    (confined : Confined host ofGuest allows activity) :
    Composed host ofGuest allows activity := by
  induction confined with
  | own steps =>
      refine .own fun before => ?_
      obtain ⟨answer, after, ends, step⟩ := steps before
      obtain ⟨events, recorded, allowed⟩ := step.recorded
      exact ⟨answer, after, events, ends, step.own, recorded, allowed⟩
  | wait guest ready => exact .wait guest ready
  | call designator args => exact .call designator args
  | route envelope => exact .route envelope
  | deliver guest envelope => exact .deliver guest envelope
  | bind _ _ first_ih rest_ih => exact first_ih.bind rest_ih

namespace Composed

/-! ## Parts -/

theorem of_pure (value : α) :
    Composed host ofGuest allows fun _ => (pure value : Activity α) :=
  (Confined.of_pure value).composed

theorem of_get : Composed host ofGuest allows fun _ => (get : Activity Context) :=
  Confined.of_get.composed

theorem of_report {event : Log.Event} (other : event.isFailure = false) :
    Composed host ofGuest allows fun _ => Activity.report event :=
  (Confined.of_report other).composed

theorem of_modify {change : Context → Context}
    (keeps : ∀ context : Context, context.Aside (change context)) :
    Composed host ofGuest allows fun _ => (modify change : Activity Unit) :=
  .own fun before => ⟨(), (change before.1, before.2), [], rfl, .context (keeps before.1).number,
    .aside (keeps before.1), nofun⟩

theorem run_bind {attempt : Reentry → ExceptT ε Activity α}
    {next : α → Reentry → ExceptT ε Activity β}
    (first : Composed host ofGuest allows fun again => (attempt again).run)
    (rest : ∀ value, Composed host ofGuest allows fun again => (next value again).run) :
    Composed host ofGuest allows fun again =>
      (attempt again >>= fun value => next value again).run := by
  change Composed host ofGuest allows fun again =>
    (attempt again).run >>= ExceptT.bindCont fun value => next value again
  refine first.bind fun result => ?_
  cases result with
  | ok value => exact rest value
  | error error => exact of_pure (Except.error error)

theorem run_lift {activity : Reentry → Activity α}
    (composed : Composed host ofGuest allows activity) :
    Composed host ofGuest allows fun again => (liftM (activity again) : ExceptT ε Activity α).run :=
  composed.bind fun value => of_pure (Except.ok value)

theorem of_throw (error : ε) :
    Composed host ofGuest allows fun _ => (throw error : ExceptT ε Activity α).run :=
  of_pure (Except.error error)

/-! ## Messages and code of a guest -/

/-- Routing a message is composed, and does not wait unless it is entered again. -/
theorem of_route (envelope : Wire.Envelope) :
    Composed host ofGuest (fun _ => True) fun again => (host.route again envelope).run :=
  (Confined.of_route envelope).composed

/-- A function of a guest is composed; its code may wait and send messages. -/
theorem of_guestCall (module : Wasm.Module) (args : List Wasm.Value)
    (designator : Wasm.Designator) :
    Composed host True allows fun again => (Guest.call module again args designator).run :=
  (Confined.of_guestCall module args designator).composed

/-! ## Starting contexts -/

theorem of_instantiate (stubs : Bool) :
    Composed host ofGuest allows fun again => (host.instantiate again stubs).run := by
  refine of_get.run_lift.run_bind fun context => ?_
  refine (Confined.of_linker stubs).composed.run_bind fun linker => ?_
  split
  · exact of_throw _
  · refine run_bind (run_lift (of_modify ?_)) fun _ => ?_
    · intro context
      exact ⟨rfl, rfl, rfl, fun has => has⟩
    · exact ((Confined.of_putSegments _).run_bind fun _ => .of_runStart).composed

theorem of_bindBridge (bridge : Bridge) :
    Composed host ofGuest allows fun _ => Host.bindBridge bridge :=
  of_modify fun _ => ⟨rfl, rfl, rfl, fun _ => rfl⟩

theorem of_startSteps {steps : List StartStep} (others : ∀ step ∈ steps, step ≠ .enterRunning) :
    Composed host ofGuest allows fun again => (Host.startSteps again steps).run :=
  (Confined.of_startSteps others).composed

/-- What a main context does until its guest may begin is composed. -/
theorem of_startMain : Composed host ofGuest allows fun again => (host.startMain again).run := by
  refine (of_instantiate _).run_bind fun _ => ?_
  have storage : Composed host ofGuest allows fun again => (host.initMainStorage again).run :=
    Confined.of_initMainStorage.composed
  cases host.bridge? with
  | some bridge => exact (of_bindBridge bridge).run_lift.run_bind fun _ => storage
  | none => exact (run_lift (of_report rfl)).run_bind fun _ => storage

/-- What a main context does from there on is composed. -/
theorem of_callMain : Composed host ofGuest allows fun again => (host.callMain again).run :=
  Confined.of_callMain.composed

end Composed

/-! ## Depths -/

namespace Host

variable {depth : Nat}

/-- On the last levels no code of the guest runs. -/
theorem call_reentry_of_le (host : Host) (last : depth ≤ 1) (designator : Wasm.Designator)
    (args : List Wasm.Value) :
    (host.reentry depth).call designator args = pure (.error .exhausted) := by
  match depth, last with
  | 0, _ => rfl
  | 1, _ => rfl

/-- What holds of calls and messages when they are refused, and of those that are entered in
ways of which it holds, holds of calls and messages at every depth. -/
theorem reentry_induction (host : Host) (depth : Nat)
    (calls : Activity (Except Guest.Trap (List Wasm.Value)) → Prop)
    (routes : Wire.Envelope → Activity (Except Fault UInt32) → Prop)
    (trapped : calls (pure (.error .exhausted)))
    (refused : ∀ envelope,
      routes envelope (pure (.error (.engine Guest.Trap.exhausted.text))))
    (step : ∀ again : Reentry, (∀ designator args, calls (again.call designator args)) →
      (∀ envelope, routes envelope (again.route envelope)) →
      (∀ designator args, calls (Guest.call host.module again args designator).run) ∧
        ∀ envelope, routes envelope (host.route again envelope).run) :
    (∀ designator args, calls ((host.reentry depth).call designator args)) ∧
      ∀ envelope, routes envelope ((host.reentry depth).route envelope) := by
  induction depth with
  | zero => exact ⟨fun _ _ => trapped, refused⟩
  | succ depth ih =>
      obtain ⟨code, served⟩ := step (host.reentry depth) ih.1 ih.2
      refine ⟨fun designator args => ?_, served⟩
      cases depth with
      | zero => exact trapped
      | succ depth => exact code designator args

/-- What every end keeps of calls and messages that are entered in ways that keep it is kept at
every depth. -/
theorem reentry_keeps (host : Host) (others : Shared → Shared → Prop) (depth : Nat)
    (keeps : Moment → Moment → Prop) (refl : ∀ moment, keeps moment moment)
    (step : ∀ again : Reentry,
      (∀ designator args before outcome after,
        (again.call designator args).EndsAmid others before outcome after → keeps before after) →
      (∀ envelope before outcome after,
        (again.route envelope).EndsAmid others before outcome after → keeps before after) →
      (∀ designator args before outcome after,
        (Guest.call host.module again args designator).run.EndsAmid others before outcome after →
        keeps before after) ∧
      ∀ envelope before outcome after,
        (host.route again envelope).run.EndsAmid others before outcome after →
        keeps before after) :
    (∀ designator args before outcome after,
      ((host.reentry depth).call designator args).EndsAmid others before outcome after →
      keeps before after) ∧
    ∀ envelope before outcome after,
      ((host.reentry depth).route envelope).EndsAmid others before outcome after →
      keeps before after := by
  have stays {α : Type} {value : α} (before : Moment) (outcome : α) (after : Moment)
      (ends : (pure value : Activity α).EndsAmid others before outcome after) :
      keeps before after := by
    obtain ⟨-, rfl⟩ := Activity.endsAmid_pure_iff.mp ends
    exact refl after
  exact host.reentry_induction depth
    (fun activity => ∀ before outcome after,
      activity.EndsAmid others before outcome after → keeps before after)
    (fun _ activity => ∀ before outcome after,
      activity.EndsAmid others before outcome after → keeps before after)
    stays (fun _ => stays) step

end Host

end WasmBridge
