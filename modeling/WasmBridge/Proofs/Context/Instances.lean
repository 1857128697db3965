import WasmBridge.Proofs.Context.Receipts
import WasmBridge.Session

/-!
# Instances stay

What is confined keeps the instance as a whole, if what it enters does: so the bridge of a
context and the place of its memory outlast every call of its guest and every message, and no
memory shrinks.
-/

namespace WasmBridge

open Activity

variable {host : Host} {ofGuest : Prop} {allows : Context.Event → Prop} {α : Type}

/-- A context has the instance that it had; if others do no more than grow the memory that
all contexts share, neither was more done here. -/
structure Moment.KeepsAmid (others : Shared → Shared → Prop) (before after : Moment) : Prop where
  context : before.1.Keeps after.1
  memory : (∀ first later, others first later → first.memory.GrowsInto later.memory) →
    before.2.memory.GrowsInto after.2.memory

namespace Moment.KeepsAmid

variable {others : Shared → Shared → Prop} {before middle after : Moment}

theorem refl (moment : Moment) : moment.KeepsAmid others moment :=
  ⟨.refl _, fun _ => .refl _⟩

theorem trans (early : before.KeepsAmid others middle) (late : middle.KeepsAmid others after) :
    before.KeepsAmid others after :=
  ⟨early.context.trans late.context, fun grow => (early.memory grow).trans (late.memory grow)⟩

theorem of_keeps (keeps : before.Keeps after) : before.KeepsAmid others after :=
  ⟨keeps.context, fun _ => keeps.memory⟩

theorem of_waitUntil {ready : Shared → Bool}
    (ends : (waitUntil ready).EndsAmid others before () after) :
    before.KeepsAmid others after := by
  obtain ⟨same, rest⟩ := unchanged_of_waitUntil ends
  refine ⟨by rw [same]; exact .refl _, fun grow => ?_⟩
  rcases rest with unchanged | changed
  · rw [unchanged]
    exact .refl _
  · exact grow _ _ changed

end Moment.KeepsAmid

theorem Moment.keeps_closing (moment : Moment) (receipt : Receipt) :
    moment.Keeps (moment.closing receipt) := by
  unfold Moment.closing
  split
  · exact .refl _
  · exact ⟨.refl _, .refl _⟩

/-- What is confined keeps the instance if what it enters does. -/
theorem Confined.keepsAmid {again : Reentry} {others : Shared → Shared → Prop}
    {activity : Reentry → Activity α} (confined : Confined host ofGuest allows activity)
    (calls : ∀ designator args before outcome after,
      (again.call designator args).EndsAmid others before outcome after →
      before.KeepsAmid others after)
    (routes : ∀ envelope before outcome after,
      (again.route envelope).EndsAmid others before outcome after →
      before.KeepsAmid others after) :
    ∀ before answer after, (activity again).EndsAmid others before answer after →
      before.KeepsAmid others after := by
  induction confined with
  | own steps =>
      intro before answer after ends
      obtain ⟨value, last, done, step⟩ := steps before
      obtain ⟨-, rfl⟩ := done.endsAmid_iff.mp ends
      exact .of_keeps step.keeps
  | wait _ ready =>
      intro before answer after ends
      exact .of_waitUntil ends
  | call designator args => exact calls designator args
  | route envelope => exact routes envelope
  | deliver _ envelope =>
      intro before answer after ends
      obtain ⟨outcome, middle, routed, -, rfl⟩ := Reentry.endsAmid_deliver_iff.mp ends
      have kept := routes envelope before outcome middle routed
      exact kept.trans (.of_keeps (middle.keeps_closing _))
  | bind _ _ first_ih rest_ih =>
      intro before answer after ends
      obtain ⟨value, middle, first, rest⟩ := endsAmid_bind_iff.mp ends
      exact (first_ih _ _ _ first).trans (rest_ih value _ _ _ rest)

/-- At every depth each call and each message that comes to an end keeps the instance. -/
theorem Host.keepsAmid_of_reentry (host : Host) (others : Shared → Shared → Prop)
    (depth : Nat) :
    (∀ designator args before outcome after,
      ((host.reentry depth).call designator args).EndsAmid others before outcome after →
      before.KeepsAmid others after) ∧
    ∀ envelope before outcome after,
      ((host.reentry depth).route envelope).EndsAmid others before outcome after →
      before.KeepsAmid others after := by
  refine host.reentry_keeps others depth (Moment.KeepsAmid others) (fun moment => .refl moment) ?_
  intro again calls routes
  constructor
  · intro designator args
    have code : Confined host True (fun _ => True) fun again =>
        (Guest.call host.module again args designator).run := .of_guestCall _ _ _
    exact code.keepsAmid calls routes
  · intro envelope
    have served : Confined host True (fun _ => True) fun again =>
        (host.route again envelope).run := .of_route envelope
    exact served.keepsAmid calls routes

/-! ## The memory that all contexts share -/

/-- The memory that all contexts share is there: the planned one, which may have grown. -/
def Host.MemoryInPlace (host : Host) (shared : Shared) : Prop :=
  ∀ planned, host.plan = .shared planned → planned.create.GrowsInto shared.memory

namespace Host.MemoryInPlace

/-- Before anything is done the memory is in its place. -/
theorem of_new (host : Host) (heap : Heap) (functions : Functions) :
    host.MemoryInPlace (Session.new host heap functions).shared := by
  intro planned plan
  simp only [Session.new, plan]
  exact .refl _

/-- There it stays as long as no one else takes it away. -/
theorem keepsAmid {others : Shared → Shared → Prop} {before after : Moment}
    (inPlace : host.MemoryInPlace before.2) (keeps : before.KeepsAmid others after)
    (grow : ∀ first later, others first later → first.memory.GrowsInto later.memory) :
    host.MemoryInPlace after.2 :=
  fun planned plan => (inPlace planned plan).trans (keeps.memory grow)

end Host.MemoryInPlace

end WasmBridge
