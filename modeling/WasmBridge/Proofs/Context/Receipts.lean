import WasmBridge.Proofs.Context.Composition
import WasmBridge.Proofs.Context.Interference

/-!
# The messages of a run

While a message is served the guest may run and send messages of its own, to any depth.
Every end of a run comes with a receipt for each message that was served in it.  The failed
ones among those that the guest sent are what the context reports, each once and in the order
in which they ended.
-/

namespace WasmBridge

open Activity

variable {host : Host} {again : Reentry} {others : Shared → Shared → Prop}
  {before middle after : Moment} {depth : Nat} {envelope : Wire.Envelope} {α : Type}

/-! ## Receipts and reports -/

/-- A message that came to an end, and its outcome. -/
structure Receipt where
  envelope : Wire.Envelope
  outcome : Except Fault UInt32

namespace Receipt

/-- The word that answers the message. -/
def answer (receipt : Receipt) : UInt32 :=
  receipt.outcome.toOption.getD 0

/-- What a context reports of the message if it failed. -/
def failure? (id : UInt32) (receipt : Receipt) : Option Log.Event :=
  match receipt.outcome with
  | .ok _ => none
  | .error fault => some (.messageFailed id receipt.envelope.library receipt.envelope.command fault)

end Receipt

/-- A message that was served in a run. -/
inductive Message where
  /-- The guest sent it, and its outcome was put down. -/
  | sent (receipt : Receipt)
  /-- A library routed it, and got the outcome itself. -/
  | routed (receipt : Receipt)

namespace Message

/-- The receipt of the message, whoever sent it. -/
def receipt : Message → Receipt
  | sent receipt | routed receipt => receipt

/-- What a context reports of the message. -/
def failure? (id : UInt32) : Message → Option Log.Event
  | sent receipt => receipt.failure? id
  | routed _ => none

end Message

/-- What a context reported of messages that failed, in order. -/
def Shared.failures (shared : Shared) (id : UInt32) : List Log.Event :=
  (shared.log.toList.filter fun (reporter, event) => reporter == id && event.isFailure).map
    Prod.snd

/-- Others report no failed message under the number of a context. -/
def Shared.Spares (id : UInt32) (shared later : Shared) : Prop :=
  later.failures id = shared.failures id

/-- The moment after the outcome of a message was put down. -/
def Moment.closing (moment : Moment) (receipt : Receipt) : Moment :=
  match receipt.failure? moment.1.id with
  | none => moment
  | some event => (moment.1, { moment.2 with log := moment.2.log.push (moment.1.id, event) })

theorem Shared.failures_push (shared : Shared) (id reporter : UInt32) (event : Log.Event) :
    { shared with log := shared.log.push (reporter, event) }.failures id =
      shared.failures id ++ if reporter == id && event.isFailure then [event] else [] := by
  simp only [Shared.failures, Array.toList_push, List.filter_append, List.map_append,
    List.filter_cons, List.filter_nil]
  split <;> rfl

theorem Moment.failures_closing (moment : Moment) (receipt : Receipt) :
    (moment.closing receipt).2.failures moment.1.id =
      moment.2.failures moment.1.id ++ (receipt.failure? moment.1.id).toList := by
  unfold Moment.closing
  cases failed : receipt.failure? moment.1.id with
  | none => simp
  | some event =>
      have reports : event.isFailure = true := by
        unfold Receipt.failure? at failed
        split at failed
        · cases failed
        · cases failed
          rfl
      simp [Shared.failures_push, reports]

theorem Moment.closing_id (moment : Moment) (receipt : Receipt) :
    (moment.closing receipt).1 = moment.1 := by
  unfold Moment.closing
  split <;> rfl

/-- Own steps leave the reports of failed messages as they are. -/
theorem OwnStep.failures (step : OwnStep host before after) :
    after.1.id = before.1.id ∧ after.2.failures before.1.id = before.2.failures before.1.id := by
  cases step with
  | context same => exact ⟨same, rfl⟩
  | report other => exact ⟨rfl, by simp [Shared.failures_push, other]⟩
  | _ => exact ⟨rfl, rfl⟩

/-- To deliver a message is to route it and to put down its outcome. -/
theorem Reentry.endsAmid_deliver_iff {answer : UInt32} :
    (again.deliver envelope).EndsAmid others before answer after ↔
      ∃ outcome middle, (again.route envelope).EndsAmid others before outcome middle ∧
        answer = Receipt.answer ⟨envelope, outcome⟩ ∧
        after = middle.closing ⟨envelope, outcome⟩ := by
  unfold Reentry.deliver
  rw [endsAmid_bind_iff]
  refine exists_congr fun outcome => exists_congr fun middle => and_congr_right fun _ => ?_
  cases outcome with
  | ok value => exact endsAmid_pure_iff
  | error fault => exact endsAmid_of_done rfl

/-! ## Runs with the messages in them -/

/--
A run with the messages that were served in it, in the order in which they ended.
What runs is given for any way of entering the context again, and enters it by code of the
guest and by messages, nested to a depth.  An own step is the same for every way of entering
again and keeps to the instance, and whatever is routed on a level on which messages are served
is put down as sent or as routed; so no message hides in a run.
-/
inductive Traced (host : Host) (others : Shared → Shared → Prop) :
    {α : Type} → Nat → (Reentry → Activity α) → Moment → List Message → α → Moment → Prop where
  | own {α : Type} {depth : Nat} {activity : Activity α} {allows : Context.Event → Prop}
      {before after : Moment} {answer : α} (done : activity.EndsAtOnce before answer after)
      (step : ConfinedStep host allows before after) :
      Traced host others depth (fun _ => activity) before [] answer after
  | wait {depth : Nat} {ready : Shared → Bool} {before after : Moment}
      (ends : (waitUntil ready).EndsAmid others before () after) :
      Traced host others depth (fun _ => waitUntil ready) before [] () after
  | call {depth : Nat} {designator : Wasm.Designator} {args : List Wasm.Value}
      {before after : Moment} {messages : List Message}
      {outcome : Except Guest.Trap (List Wasm.Value)}
      (code : Traced host others (depth + 1)
        (fun again => (Guest.call host.module again args designator).run) before messages outcome
        after) :
      Traced host others (depth + 2) (fun again => again.call designator args) before messages
        outcome after
  | callTooDeep {depth : Nat} {designator : Wasm.Designator} {args : List Wasm.Value}
      {before : Moment} (last : depth ≤ 1) :
      Traced host others depth (fun again => again.call designator args) before []
        (.error .exhausted) before
  | deliver {depth : Nat} {envelope : Wire.Envelope} {before after : Moment}
      {messages : List Message} {outcome : Except Fault UInt32}
      (served : Traced host others depth (fun again => (host.route again envelope).run) before
        messages outcome after) :
      Traced host others (depth + 1) (fun again => again.deliver envelope) before
        (messages ++ [.sent ⟨envelope, outcome⟩]) (Receipt.answer ⟨envelope, outcome⟩)
        (after.closing ⟨envelope, outcome⟩)
  | route {depth : Nat} {envelope : Wire.Envelope} {before after : Moment}
      {messages : List Message} {outcome : Except Fault UInt32}
      (served : Traced host others depth (fun again => (host.route again envelope).run) before
        messages outcome after) :
      Traced host others (depth + 1) (fun again => again.route envelope) before
        (messages ++ [.routed ⟨envelope, outcome⟩]) outcome after
  | routeTooDeep {envelope : Wire.Envelope} {before : Moment} :
      Traced host others 0 (fun again => again.route envelope) before []
        (.error (.engine Guest.Trap.exhausted.text)) before
  | bind {α β : Type} {depth : Nat} {activity : Reentry → Activity α}
      {next : α → Reentry → Activity β} {before middle after : Moment}
      {early late : List Message} {value : α} {answer : β}
      (first : Traced host others depth activity before early value middle)
      (rest : Traced host others depth (next value) middle late answer after) :
      Traced host others depth (fun again => activity again >>= fun value => next value again)
        before (early ++ late) answer after

namespace Traced

variable {activity : Reentry → Activity α} {messages : List Message} {answer : α}

/-- A run with its messages is a run. -/
theorem endsAmid (traced : Traced host others depth activity before messages answer after) :
    (activity (host.reentry depth)).EndsAmid others before answer after := by
  induction traced with
  | own done _ => exact done.endsAmid
  | wait ends => exact ends
  | call _ ih => exact ih
  | callTooDeep last =>
      dsimp only
      rw [host.call_reentry_of_le last]
      exact endsAmid_pure_iff.mpr ⟨rfl, rfl⟩
  | deliver _ ih => exact Reentry.endsAmid_deliver_iff.mpr ⟨_, _, ih, rfl, rfl⟩
  | route _ ih => exact ih
  | routeTooDeep => exact endsAmid_pure_iff.mpr ⟨rfl, rfl⟩
  | bind _ _ first rest => exact endsAmid_bind_iff.mpr ⟨_, _, first, rest⟩

/-- The reports of a run are those of its messages that failed. -/
theorem failures {id : UInt32}
    (traced : Traced host (Shared.Spares id) depth activity before messages answer after)
    (own : before.1.id = id) :
    after.1.id = id ∧
      after.2.failures id = before.2.failures id ++ messages.filterMap (Message.failure? id) := by
  induction traced with
  | own _ step =>
      obtain ⟨same, kept⟩ := step.own.failures
      rw [own] at same kept
      exact ⟨same, by simpa using kept⟩
  | wait ends =>
      obtain ⟨same, left⟩ := unchanged_of_waitUntil ends
      refine ⟨by rw [same, own], ?_⟩
      rcases left with equal | spared
      · simp [equal]
      · simpa [Shared.Spares] using spared
  | call _ ih => exact ih own
  | callTooDeep => exact ⟨own, by simp⟩
  | @deliver depth envelope before middle messages outcome _ ih =>
      obtain ⟨same, reported⟩ := ih own
      refine ⟨by rw [Moment.closing_id, same], ?_⟩
      have closed := Moment.failures_closing middle ⟨envelope, outcome⟩
      rw [same] at closed
      have last : [Message.sent ⟨envelope, outcome⟩].filterMap (Message.failure? id) =
          (Receipt.failure? id ⟨envelope, outcome⟩).toList := by
        cases outcome <;> rfl
      rw [closed, reported, List.filterMap_append, last, List.append_assoc]
  | route _ ih =>
      obtain ⟨same, reported⟩ := ih own
      refine ⟨same, ?_⟩
      rw [reported, List.filterMap_append]
      simp [Message.failure?]
  | routeTooDeep => exact ⟨own, by simp⟩
  | bind _ _ first rest =>
      obtain ⟨same, early⟩ := first own
      obtain ⟨last, late⟩ := rest same
      exact ⟨last, by rw [late, early, List.filterMap_append, List.append_assoc]⟩

/-! ## Every end has its messages -/

/-- The messages of a run are found where those of what it enters are.  What sends messages is
on a level on which they are served. -/
theorem of_confined {ofGuest : Prop} {allows : Context.Event → Prop}
    (confined : Confined host ofGuest allows activity) (deep : ofGuest → depth ≠ 0)
    (calls : ∀ designator args before outcome after,
      ((host.reentry depth).call designator args).EndsAmid others before outcome after →
      ∃ messages, Traced host others depth (fun again => again.call designator args) before
        messages outcome after)
    (serves : ∀ level, depth = level + 1 → ∀ envelope before outcome after,
      (host.route (host.reentry level) envelope).run.EndsAmid others before outcome after →
      ∃ messages, Traced host others level (fun again => (host.route again envelope).run) before
        messages outcome after) :
    ∀ before answer after, (activity (host.reentry depth)).EndsAmid others before answer after →
      ∃ messages, Traced host others depth activity before messages answer after := by
  induction confined with
  | own steps =>
      intro before answer after ends
      obtain ⟨value, last, done, step⟩ := steps before
      obtain ⟨rfl, rfl⟩ := done.endsAmid_iff.mp ends
      exact ⟨[], .own done step⟩
  | wait _ ready =>
      intro before answer after ends
      exact ⟨[], .wait ends⟩
  | call designator args => exact calls designator args
  | route envelope =>
      intro before outcome after ends
      cases depth with
      | zero =>
          obtain ⟨rfl, rfl⟩ := endsAmid_pure_iff.mp ends
          exact ⟨[], .routeTooDeep⟩
      | succ level =>
          obtain ⟨messages, served⟩ := serves level rfl envelope before outcome after ends
          exact ⟨_, .route served⟩
  | deliver guest envelope =>
      intro before answer after ends
      obtain ⟨level, rfl⟩ := Nat.exists_eq_succ_of_ne_zero (deep guest)
      obtain ⟨outcome, middle, routed, rfl, rfl⟩ := Reentry.endsAmid_deliver_iff.mp ends
      obtain ⟨messages, served⟩ := serves level rfl envelope before outcome middle routed
      exact ⟨_, .deliver served⟩
  | bind _ _ first_ih rest_ih =>
      intro before answer after ends
      obtain ⟨value, middle, first, rest⟩ := endsAmid_bind_iff.mp ends
      obtain ⟨early, traced⟩ := first_ih _ _ _ first
      obtain ⟨late, followed⟩ := rest_ih value _ _ _ rest
      exact ⟨early ++ late, .bind traced followed⟩

/-- At every depth, each call that comes to an end does so with the messages in it, and so does
each message that is served one level below. -/
theorem of_reentry (host : Host) (others : Shared → Shared → Prop) (depth : Nat) :
    (∀ designator args before outcome after,
      ((host.reentry depth).call designator args).EndsAmid others before outcome after →
      ∃ messages, Traced host others depth (fun again => again.call designator args) before
        messages outcome after) ∧
    ∀ level, depth = level + 1 → ∀ envelope before outcome after,
      (host.route (host.reentry level) envelope).run.EndsAmid others before outcome after →
      ∃ messages, Traced host others level (fun again => (host.route again envelope).run) before
        messages outcome after := by
  have trapped {level : Nat} (last : level ≤ 1) (designator args before outcome after)
      (ends : ((host.reentry level).call designator args).EndsAmid others before outcome after) :
      ∃ messages, Traced host others level (fun again => again.call designator args) before
        messages outcome after := by
    rw [host.call_reentry_of_le last] at ends
    obtain ⟨rfl, rfl⟩ := endsAmid_pure_iff.mp ends
    exact ⟨[], .callTooDeep last⟩
  induction depth with
  | zero => exact ⟨trapped (Nat.zero_le 1), nofun⟩
  | succ depth ih =>
      obtain ⟨calls, serves⟩ := ih
      constructor
      · cases depth with
        | zero => exact trapped (Nat.le_refl 1)
        | succ level =>
            intro designator args before outcome after ends
            have code : Confined host True (fun _ => True) fun again =>
                (Guest.call host.module again args designator).run := .of_guestCall _ _ _
            obtain ⟨messages, traced⟩ := of_confined code (fun _ => Nat.succ_ne_zero level)
              calls serves _ _ _ ends
            exact ⟨messages, .call traced⟩
      · rintro level same envelope
        cases same
        have served : Confined host False (fun _ => True) fun again =>
            (host.route again envelope).run := .of_route envelope
        exact of_confined served False.elim calls serves

end Traced

end WasmBridge
