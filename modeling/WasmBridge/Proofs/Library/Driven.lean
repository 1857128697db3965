import WasmBridge.Proofs.Handle.Contents
import WasmBridge.Proofs.Library.Answers
import WasmBridge.Proofs.Library.RoundTrip

/-!
# Contexts driven by messages

A context whose guest sends messages to the control library and to the objects library
only, also while it is entered again, stores no null: an answer that is null takes no slot,
and nothing else is stored that could be null.
-/

namespace WasmBridge

open Activity

variable {host : Host} {again : Reentry} {others : Shared → Shared → Prop}
  {before after : Moment} {envelope : Wire.Envelope} {payload : Bytes} {ε : Type}

/-- An event by which no null is stored, and no library registered that the host does not
offer. -/
def Context.Event.Proper (host : Host) : Context.Event → Prop
  | .table (.inserted value _) => value ≠ .null
  | .table _ => True
  | .registered library => ∃ name, host.catalog.find name = .ok library

/-- A context whose unpinned values are of some kind keeps to it if it stores no others. -/
theorem Context.Evolves.unpinned {before after : Context} {events : List Context.Event}
    {kind : HostValue → Prop} (evolves : before.Evolves events after)
    (wf : before.objects.WellFormed .null (.object host.globalObject))
    (all : before.objects.Unpinned kind)
    (suits : ∀ value answer, .table (.inserted value answer) ∈ events → kind value) :
    after.objects.Unpinned kind := by
  obtain ⟨calls, run⟩ := evolves.table
  have later : (before.objects.run calls).2.Unpinned kind := by
    refine all.run wf fun value answer member => ?_
    rw [run] at member
    obtain ⟨event, among, same⟩ := List.mem_filterMap.mp member
    cases event with
    | table event =>
        cases same
        exact suits value answer among
    | registered library => cases same
  rwa [run] at later

/-- A context is driven from a moment to another by messages to the control library, to the
objects library and to numbers that name no library.  While such a message is served the
guest may be entered again, and the context is driven in the same way.  Between messages
anything may happen that touches neither its table nor its libraries. -/
inductive Driven (host : Host) (others : Shared → Shared → Prop) : Moment → Moment → Prop where
  | aside {before after : Moment} (aside : before.1.Aside after.1) : Driven host others before after
  | message {again : Reentry} {envelope : Wire.Envelope} {before after : Moment}
      {outcome : Except Fault UInt32}
      (standard : ∀ library, before.1.libraries.resolve envelope.library = .ok library →
        library = Objects.library)
      (entered : ∀ designator args outcome middle,
        (again.call designator args).EndsAmid others before outcome middle →
        Driven host others before middle)
      (ends : (host.route again envelope).run.EndsAmid others before outcome after) :
      Driven host others before after
  | trans {before middle after : Moment} (first : Driven host others before middle)
      (rest : Driven host others middle after) : Driven host others before after

/-! ## No null is stored -/

namespace Host

/-- Reading a property does not enter the guest. -/
theorem perform_readProperty (again other : Reentry) (object : Handle) (name : String) :
    host.perform again (Objects.readProperty object name) =
      host.perform other (Objects.readProperty object name) := by
  have stores (value : HostValue) :
      host.perform again (Objects.store value) = host.perform other (Objects.store value) := by
    unfold Objects.store
    split
    · rfl
    · rw [perform_insert, perform_insert]
  simp only [Objects.readProperty, perform_bind, perform_lookup, perform_ask]
  congr 1
  funext holder
  refine congrArg (liftM (host.respond other (.property holder name)) >>= ·) ?_
  funext property
  cases property with
  | none => rfl
  | some value => exact stores value

/-- The control library does not enter the guest. -/
theorem control_eq (again other : Reentry) (command : Wire.ControlCommand) :
    host.control again command envelope = host.control other command envelope := by
  cases command with
  | getProperty =>
      simp only [control, serve_eq, perform_readProperty again other]
  | _ => rfl

theorem within_readProperty (object : Handle) (name : String) :
    (Objects.readProperty object name).Within (Context.Event.Proper host) := by
  have stores (value : HostValue) : (Objects.store value).Within (Context.Event.Proper host) := by
    cases value with
    | null => trivial
    | _ => exact ⟨fun _ => nofun, fun _ => Program.within_ofExcept _⟩
  have looks : (Program.lookup object).Within (Context.Event.Proper host) :=
    ⟨trivial, fun _ => Program.within_ofExcept _⟩
  refine looks.bind fun holder => ⟨trivial, fun property => ?_⟩
  cases property with
  | none => trivial
  | some value => exact stores value

theorem leads_of_control {command : Wire.ControlCommand} {outcome : Except Fault UInt32}
    (ends : (host.control again command envelope).run.EndsAmid others before outcome after) :
    before.1.Leads (Context.Event.Proper host) after.1 := by
  rw [control_eq again trapping] at ends
  have composed : Composed host True (Context.Event.Proper host) fun again =>
      (host.control again command envelope).run :=
    (Confined.of_control command envelope (fun _ name _ found => ⟨name, found⟩) fun _ _ =>
      within_readProperty _ _).composed
  refine composed.leads (fun _ _ before _ after called => ?_) (fun _ before _ after routed => ?_)
    before outcome after ends
  · obtain ⟨-, rfl⟩ := endsAmid_pure_iff.mp called
    exact .refl _
  · obtain ⟨-, rfl⟩ := endsAmid_pure_iff.mp routed
    exact .refl _

theorem leads_of_answered {results : Option HostValue → Prop} {outcome : Except ε Handle}
    (answered : Answered results before outcome after) :
    before.1.Leads (Context.Event.Proper host) after.1 := by
  cases answered with
  | @stored value handle objects shared given proper inserted =>
      have performed : before.1.objects.step (.insert value) =
          (.inserted value (.ok handle), objects) := by
        simp only [HandleTable.step, inserted]
      have step : before.1.Step _ _ := .table (.insert value)
      rw [performed] at step
      refine .of_step step fun event member => ?_
      rw [List.mem_singleton.mp member]
      exact proper
  | nothing => exact .refl _
  | refused => exact .refl _

theorem leads_of_release (context : Context) (handle : Handle) :
    context.Leads (Context.Event.Proper host)
      { context with objects := (context.objects.release handle).2 } := by
  refine .of_step (.table (.release handle)) fun event member => ?_
  rw [List.mem_singleton.mp member]
  trivial

/-- The objects library stores no null, as long as the guest that is asked for room stores
none. -/
theorem leads_of_serveCommand {command : Wire.ObjectCommand} {result : Except Failure UInt32}
    (entered : ∀ designator args outcome middle,
      (again.call designator args).EndsAmid others before outcome middle →
      before.1.Leads (Context.Event.Proper host) middle.1)
    (ends : (host.run again (Objects.serveCommand command payload)).EndsAmid others before result
      after) :
    before.1.Leads (Context.Event.Proper host) after.1 := by
  have settled (carried : host.CarriesOut again (Objects.serveCommand command payload) before
      fun _ last => before.1.Leads (Context.Event.Proper host) last.1) :
      before.1.Leads (Context.Event.Proper host) after.1 := by
    obtain ⟨value, last, atOnce, leads⟩ := carried
    obtain ⟨-, rfl⟩ := atOnce.endsAmid_iff.mp ends
    exact leads
  by_cases member : command ∈ Objects.handleCommands
  · exact settled ((CarriesOut.of_handleCommand member).mono fun _ _ => leads_of_answered)
  · cases command with
    | release =>
        refine settled (.ofExcept_bind (fun handle _ => ?_) fun fault _ => .refl _)
        have responds : (host.respond again (.release handle)).EndsAtOnce before
            (before.1.objects.release handle).1
            ({ before.1 with objects := (before.1.objects.release handle).2 }, before.2) := rfl
        exact .of_request responds (.of_answer (leads_of_release before.1 handle))
    | numberValue =>
        refine settled (.ofExcept_bind (fun handle _ => ?_) fun fault _ => .refl _)
        refine .lookup_bind (fun value _ => ?_) fun fault _ => .refl _
        cases value.asWord? with
        | some word => exact .of_answer (.refl _)
        | none => exact .of_refuse (.refl _)
    | readString =>
        cases decoded : Wire.decodeOne payload "read string" with
        | error fault =>
            refine settled (.ofExcept_bind (fun handle found => ?_) fun _ _ => .refl _)
            cases decoded.symm.trans found
        | ok handle =>
            obtain rfl := Wire.decodeOne_eq_ok_iff.mp decoded
            cases looked : before.1.objects.get handle with
            | error fault =>
                refine settled (.ofExcept_bind (fun other found => ?_) fun _ _ => .refl _)
                cases decoded.symm.trans found
                refine .lookup_bind (fun value found => ?_) fun _ _ => .refl _
                cases looked.symm.trans found
            | ok value =>
                obtain ⟨written, wrote, -⟩ := (endsAmid_readString_iff looked).mp ends
                rcases Reentry.aside_of_writeBytes wrote with rfl | ⟨outcome, middle, called, aside⟩
                · exact .refl _
                · exact (entered _ _ _ _ called).trans (.of_aside aside)
    | _ => exact absurd (by decide) member

/-- A message that no other library serves stores no null, as long as the guest that is
entered again stores none. -/
theorem leads_of_route {outcome : Except Fault UInt32}
    (standard : ∀ library, before.1.libraries.resolve envelope.library = .ok library →
      library = Objects.library)
    (entered : ∀ designator args outcome middle,
      (again.call designator args).EndsAmid others before outcome middle →
      before.1.Leads (Context.Event.Proper host) middle.1)
    (ends : (host.route again envelope).run.EndsAmid others before outcome after) :
    before.1.Leads (Context.Event.Proper host) after.1 := by
  cases control : envelope.isControl with
  | true =>
      unfold route at ends
      rw [if_pos control] at ends
      cases named : Wire.ControlCommand.ofWord envelope.command with
      | error fault =>
          rw [named] at ends
          obtain ⟨-, rfl⟩ := endsAmid_pure_iff.mp ends
          exact .refl _
      | ok command =>
          rw [named] at ends
          exact leads_of_control ends
  | false =>
      by_cases reached : ∃ library payload, before.Reaches envelope library payload
      · obtain ⟨library, payload, reaches⟩ := reached
        obtain rfl := standard library reaches.resolved
        obtain ⟨result, ran, -⟩ := (endsAmid_route_of_reaches reaches).mp ends
        change (host.run again (Program.ofExcept (Wire.ObjectCommand.ofWord envelope.command) >>=
          fun command => Objects.serveCommand command payload)).EndsAmid others before result
            after at ran
        cases named : Wire.ObjectCommand.ofWord envelope.command with
        | error fault =>
            rw [named] at ran
            obtain ⟨-, rfl⟩ := endsAmid_pure_iff.mp ran
            exact .refl _
        | ok command =>
            rw [named] at ran
            exact leads_of_serveCommand entered ran
      · obtain ⟨fault, only⟩ := endsAmid_route_of_not_reaches host again others control
          fun library payload reaches => reached ⟨library, payload, reaches⟩
        obtain ⟨-, rfl⟩ := (only outcome after).mp ends
        exact .refl _

end Host

namespace Driven

theorem leads (driven : Driven host others before after) :
    before.1.Leads (Context.Event.Proper host) after.1 := by
  induction driven with
  | aside aside => exact .of_aside aside
  | message standard _ ends ih => exact Host.leads_of_route standard ih ends
  | trans _ _ first rest => exact first.trans rest

/-- Only libraries that the host offers are registered. -/
theorem offered (driven : Driven host others before after) {library : Library}
    (registered : library ∈ after.1.libraries.entries) :
    library ∈ before.1.libraries.entries ∨ ∃ name, host.catalog.find name = .ok library := by
  obtain ⟨events, evolves, proper⟩ := driven.leads
  rw [evolves.libraries, List.mem_append] at registered
  refine registered.imp_right fun added => ?_
  obtain ⟨event, member, same⟩ := List.mem_filterMap.mp added
  cases event with
  | table event => cases same
  | registered other =>
      cases same
      exact proper _ member

variable {id : UInt32} {shared : Shared}
  (driven : Driven host others (Context.new host id, shared) before)
include driven

theorem wellFormed : before.1.objects.WellFormed .null (.object host.globalObject) := by
  obtain ⟨events, evolves, -⟩ := driven.leads
  exact evolves.wellFormed_of_new

/-- No slot beyond the pinned ones holds null. -/
theorem no_null : before.1.objects.Unpinned (· ≠ .null) := by
  obtain ⟨events, evolves, proper⟩ := driven.leads
  refine evolves.unpinned (.of_new _ _) (.of_new _ _) fun value answer member => ?_
  exact proper _ member

end Driven

/-! ## Hosts that offer no other library -/

/-- The context has registered no library but the objects library. -/
def Moment.Plain (moment : Moment) : Prop :=
  ∀ library ∈ moment.1.libraries.entries, library = Objects.library

theorem Moment.Plain.resolve {library : Library} {number : UInt32} (plain : before.Plain)
    (resolved : before.1.libraries.resolve number = .ok library) : library = Objects.library := by
  unfold Registry.resolve at resolved
  split at resolved
  · cases resolved
  · split at resolved
    next entry found =>
      cases resolved
      exact plain _ (List.mem_of_getElem? found)
    next => cases resolved

/-- The host offers no library but the objects library. -/
def Host.Plain (host : Host) : Prop :=
  ∀ name library, host.catalog.find name = .ok library → library = Objects.library

theorem Driven.plain (driven : Driven host others before after) (offers : host.Plain)
    (plain : before.Plain) : after.Plain := by
  intro library registered
  rcases driven.offered registered with earlier | ⟨name, found⟩
  · exact plain library earlier
  · exact offers name library found

/-- What is composed without events of its own drives the context if what it enters does. -/
theorem Composed.driven {ofGuest : Prop} {α : Type} {activity : Reentry → Activity α}
    (composed : Composed host ofGuest (fun _ => False) activity) (offers : host.Plain)
    (calls : ∀ designator args before outcome after,
      (again.call designator args).EndsAmid others before outcome after → before.Plain →
      Driven host others before after)
    (routes : ∀ envelope before outcome after,
      (again.route envelope).EndsAmid others before outcome after → before.Plain →
      Driven host others before after) :
    ∀ before answer after, (activity again).EndsAmid others before answer after → before.Plain →
      Driven host others before after := by
  induction composed with
  | own steps =>
      intro before answer after ends _
      obtain ⟨value, last, events, done, -, step, none⟩ := steps before
      obtain ⟨-, rfl⟩ := (endsAmid_of_done done).mp ends
      cases events with
      | cons event rest => exact (none event List.mem_cons_self).elim
      | nil => exact .aside step.aside_of_nil
  | wait _ ready =>
      intro before answer after ends _
      exact .aside ((unchanged_of_waitUntil ends).1 ▸ .refl _)
  | call designator args => exact calls designator args
  | route envelope => exact routes envelope
  | deliver _ envelope =>
      intro before answer after ends plain
      obtain ⟨outcome, middle, routed, -, rfl⟩ := Reentry.endsAmid_deliver_iff.mp ends
      refine (routes envelope before outcome middle routed plain).trans (.aside ?_)
      rw [Moment.closing_id]
      exact .refl _
  | bind _ _ first_ih rest_ih =>
      intro before answer after ends plain
      obtain ⟨value, middle, first, rest⟩ := endsAmid_bind_iff.mp ends
      have early := first_ih _ _ _ first plain
      exact early.trans (rest_ih value _ _ _ rest (early.plain offers plain))

/-- At every depth of a host that offers no other library, every call and every message
drives the context. -/
theorem Host.driven_of_reentry (offers : host.Plain) (others : Shared → Shared → Prop)
    (depth : Nat) :
    (∀ designator args before outcome after,
      ((host.reentry depth).call designator args).EndsAmid others before outcome after →
      before.Plain → Driven host others before after) ∧
    ∀ envelope before outcome after,
      ((host.reentry depth).route envelope).EndsAmid others before outcome after →
      before.Plain → Driven host others before after := by
  refine host.reentry_keeps others depth (fun before after => before.Plain →
    Driven host others before after) (fun _ _ => .aside (.refl _)) ?_
  intro again calls routes
  constructor
  · intro designator args
    have code : Composed host True (fun _ => False) fun again =>
        (Guest.call host.module again args designator).run := .of_guestCall _ _ _
    exact code.driven offers calls routes
  · intro envelope before outcome after ends plain
    exact .message (fun library => plain.resolve)
      (fun designator args outcome middle ends =>
        calls designator args before outcome middle ends plain) ends

/-- A main context of such a host is driven to the end of its guest. -/
theorem Host.driven_of_runMain (offers : host.Plain) {id : UInt32} {shared : Shared}
    {result : Except Fault Unit}
    (ends : (host.runMain host.entry).run.EndsAmid others (Context.new host id, shared) result
      after) :
    Driven host others (Context.new host id, shared) after := by
  obtain ⟨calls, routes⟩ := driven_of_reentry offers others greatestDepth
  have composed : Composed host True (fun _ => False) fun again => (host.runMain again).run :=
    Composed.of_startMain.run_bind fun _ => .of_callMain
  exact composed.driven offers calls routes _ _ _ ends nofun

end WasmBridge
