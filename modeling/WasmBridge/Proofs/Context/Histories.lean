import WasmBridge.Proofs.Context.Receipts

/-!
# The history of a run

Own steps are the only ones that change what the handles of a context and its library
numbers stand for.  So a context evolves through everything that serves a message or runs
guest code, however deep it is entered again, and with no other events than the parts of
that are allowed.
-/

namespace WasmBridge

open Activity

variable {host : Host} {ofGuest : Prop} {allows : Context.Event → Prop} {again : Reentry}
  {others : Shared → Shared → Prop} {before after : Moment} {α : Type}

namespace Context

/-- A context leads to another by events that are all allowed. -/
def Leads (allows : Event → Prop) (before after : Context) : Prop :=
  ∃ events, before.Evolves events after ∧ ∀ event ∈ events, allows event

namespace Leads

variable {before middle after : Context}

theorem of_step {events : List Event} (step : before.Step events after)
    (within : ∀ event ∈ events, allows event) : before.Leads allows after :=
  ⟨events, step.evolves, within⟩

theorem of_aside (aside : before.Aside after) : before.Leads allows after :=
  of_step (.aside aside) nofun

theorem refl (context : Context) : context.Leads allows context :=
  of_aside (.refl context)

theorem trans (first : before.Leads allows middle) (second : middle.Leads allows after) :
    before.Leads allows after := by
  obtain ⟨early, evolves, begun⟩ := first
  obtain ⟨late, continues, ended⟩ := second
  refine ⟨early ++ late, evolves.trans continues, fun event member => ?_⟩
  rcases List.mem_append.mp member with member | member
  · exact begun event member
  · exact ended event member

end Leads

end Context

/-- What is composed leads on if what it enters does. -/
theorem Composed.leads {activity : Reentry → Activity α}
    (composed : Composed host ofGuest allows activity)
    (calls : ∀ designator args before outcome after,
      (again.call designator args).EndsAmid others before outcome after →
      before.1.Leads allows after.1)
    (routes : ∀ envelope before outcome after,
      (again.route envelope).EndsAmid others before outcome after →
      before.1.Leads allows after.1) :
    ∀ before answer after, (activity again).EndsAmid others before answer after →
      before.1.Leads allows after.1 := by
  induction composed with
  | own steps =>
      intro before answer after ends
      obtain ⟨value, last, events, done, -, step, within⟩ := steps before
      obtain ⟨-, rfl⟩ := (endsAmid_of_done done).mp ends
      exact .of_step step within
  | wait _ ready =>
      intro before answer after ends
      rw [(unchanged_of_waitUntil ends).1]
      exact .refl _
  | call designator args => exact calls designator args
  | route envelope => exact routes envelope
  | deliver _ envelope =>
      intro before answer after ends
      obtain ⟨outcome, middle, routed, -, rfl⟩ := Reentry.endsAmid_deliver_iff.mp ends
      rw [Moment.closing_id]
      exact routes envelope before outcome middle routed
  | bind _ _ first_ih rest_ih =>
      intro before answer after ends
      obtain ⟨value, middle, first, rest⟩ := endsAmid_bind_iff.mp ends
      exact (first_ih _ _ _ first).trans (rest_ih value _ _ _ rest)

namespace Host

/-- At every depth, a context evolves through each call and each message that comes to an
end. -/
theorem leads_of_reentry (host : Host) (others : Shared → Shared → Prop) (depth : Nat) :
    (∀ designator args before outcome after,
      ((host.reentry depth).call designator args).EndsAmid others before outcome after →
      before.1.Leads (fun _ => True) after.1) ∧
    ∀ envelope before outcome after,
      ((host.reentry depth).route envelope).EndsAmid others before outcome after →
      before.1.Leads (fun _ => True) after.1 := by
  refine host.reentry_keeps others depth (fun before after => before.1.Leads (fun _ => True) after.1)
    (fun _ => .refl _) ?_
  intro again calls routes
  constructor
  · intro designator args
    have code : Composed host True (fun _ => True) fun again =>
        (Guest.call host.module again args designator).run := .of_guestCall _ _ _
    exact code.leads calls routes
  · intro envelope
    have served : Composed host True (fun _ => True) fun again =>
        (host.route again envelope).run := .of_route envelope
    exact served.leads calls routes

/-- What a main context does, to the end of its guest, the context evolves through. -/
theorem leads_of_runMain {result : Except Fault Unit}
    (ends : (host.runMain host.entry).run.EndsAmid others before result after) :
    before.1.Leads (fun _ => True) after.1 := by
  obtain ⟨calls, routes⟩ := leads_of_reentry host others greatestDepth
  have composed : Composed host True (fun _ => True) fun again => (host.runMain again).run :=
    Composed.of_startMain.run_bind fun _ => .of_callMain
  exact composed.leads calls routes _ _ _ ends

end Host

end WasmBridge
