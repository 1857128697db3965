import WasmBridge.Context.Basic
import WasmBridge.Proofs.Handle.Resolution

/-!
# How a context evolves

Of what happens to a context, only calls on its table and registrations of libraries
change what its handles and its library numbers stand for.  A context evolves with the
events of these, in order.
-/

namespace WasmBridge.Context

/-- What happens to the table and to the libraries of a context. -/
inductive Event where
  | table (event : HandleTable.Event HostValue)
  | registered (library : Library)

namespace Event

/-- The event of the table. -/
def table? : Event → Option (HandleTable.Event HostValue)
  | table event => some event
  | registered _ => none

/-- The library that was registered. -/
def registered? : Event → Option Library
  | table _ => none
  | registered library => some library

end Event

/-- A context may have changed otherwise than in its number, its table and its libraries;
once it has a bridge it keeps one. -/
structure Aside (before after : Context) : Prop where
  number : after.id = before.id
  objects : after.objects = before.objects
  libraries : after.libraries = before.libraries
  bound : before.bridge.isSome → after.bridge.isSome

theorem Aside.refl (context : Context) : context.Aside context :=
  ⟨rfl, rfl, rfl, fun has => has⟩

/-- A step of a context and its events. -/
inductive Step (before : Context) : List Event → Context → Prop where
  | aside {after : Context} (aside : before.Aside after) : Step before [] after
  | table (call : HandleTable.Call HostValue) :
      Step before [.table (before.objects.step call).1]
        { before with objects := (before.objects.step call).2 }
  | register (library : Library) :
      Step before [.registered library]
        { before with libraries := (before.libraries.register library).2 }

/-- Steps of a context and their events, in order. -/
inductive Evolves : Context → List Event → Context → Prop where
  | refl (context : Context) : Evolves context [] context
  | step {before middle after : Context} {early late : List Event}
      (first : before.Step early middle) (rest : Evolves middle late after) :
      Evolves before (early ++ late) after

variable {before middle after : Context} {events early late : List Event}

theorem Step.evolves (step : before.Step events after) : before.Evolves events after := by
  rw [← List.append_nil events]
  exact .step step (.refl after)

theorem Step.aside_of_nil (step : before.Step [] after) : before.Aside after := by
  cases step with
  | aside aside => exact aside

namespace Evolves

theorem trans (first : before.Evolves early middle) (second : middle.Evolves late after) :
    before.Evolves (early ++ late) after := by
  induction first with
  | refl => exact second
  | step opening _ ih =>
      rw [List.append_assoc]
      exact .step opening (ih second)

/-- The table runs through the calls that the events record. -/
theorem table (evolves : before.Evolves events after) :
    ∃ calls, before.objects.run calls = (events.filterMap Event.table?, after.objects) := by
  induction evolves with
  | refl => exact ⟨[], rfl⟩
  | @step before middle after early late first _ ih =>
      obtain ⟨calls, run⟩ := ih
      cases first with
      | aside aside =>
          rw [aside.objects] at run
          exact ⟨calls, run⟩
      | table call =>
          refine ⟨call :: calls, Prod.ext ?_ ?_⟩
          · rw [HandleTable.run_cons_fst, run]
            rfl
          · rw [HandleTable.run_cons_snd, run]
      | register library => exact ⟨calls, run⟩

/-- Libraries are added, in the order of the events. -/
theorem libraries (evolves : before.Evolves events after) :
    after.libraries.entries =
      before.libraries.entries ++ events.filterMap Event.registered? := by
  induction evolves with
  | refl => exact (List.append_nil _).symm
  | @step before middle after early late first _ ih =>
      rw [ih]
      cases first with
      | aside aside => rw [aside.libraries]; rfl
      | table call => rfl
      | register library => exact List.append_assoc _ _ _

theorem number (evolves : before.Evolves events after) : after.id = before.id := by
  induction evolves with
  | refl => rfl
  | step first _ ih =>
      rw [ih]
      cases first with
      | aside aside => exact aside.number
      | table call => rfl
      | register library => rfl

theorem bound (evolves : before.Evolves events after) (has : before.bridge.isSome) :
    after.bridge.isSome := by
  induction evolves with
  | refl => exact has
  | step first _ ih =>
      cases first with
      | aside aside => exact ih (aside.bound has)
      | table call => exact ih has
      | register library => exact ih has

variable {host : Host}

theorem wellFormed (evolves : before.Evolves events after)
    (wf : before.objects.WellFormed .null (.object host.globalObject)) :
    after.objects.WellFormed .null (.object host.globalObject) := by
  obtain ⟨calls, run⟩ := evolves.table
  have later := wf.run calls
  rwa [run] at later

/-- A context that evolved from a new one has a well-formed table. -/
theorem wellFormed_of_new {id : UInt32} (evolves : (Context.new host id).Evolves events after) :
    after.objects.WellFormed .null (.object host.globalObject) :=
  evolves.wellFormed (.of_new _ _)

/-- A handle keeps its value as long as it is not released. -/
theorem holds {handle : Handle} {value : HostValue} (evolves : before.Evolves events after)
    (wf : before.objects.WellFormed .null (.object host.globalObject))
    (held : before.objects.Holds handle value)
    (kept : ∀ released, .table (.released handle (some released)) ∉ events) :
    after.objects.Holds handle value := by
  obtain ⟨calls, run⟩ := evolves.table
  have unreleased : ∀ released,
      .released handle (some released) ∉ (before.objects.run calls).1 := by
    intro released member
    rw [run] at member
    obtain ⟨event, among, same⟩ := List.mem_filterMap.mp member
    cases event with
    | table event =>
        cases same
        exact kept released among
    | registered library => cases same
  have later := (held.run wf unreleased).1
  rwa [run] at later

end Evolves

end WasmBridge.Context
