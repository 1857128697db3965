import WasmBridge.Guest.Code
import WasmBridge.Proofs.Context.AtOnce
import WasmBridge.Proofs.Memory.Bytes

/-!
# The memory of a moment

The memory of an instance is the one that all contexts share or one of the context's own.
What is read from it and written to it through the bridge depends on its bytes alone, and
changes nothing else of the moment.
-/

namespace WasmBridge

open Activity

/-- The memory that the code of the guest works on. -/
def Moment.memory? (moment : Moment) : Option LinearMemory :=
  match moment.1.home with
  | .absent => none
  | .shared => some moment.2.memory
  | .own memory => some memory

/-- The moment with another memory in the place of that one. -/
def Moment.withMemory (moment : Moment) (memory : LinearMemory) : Moment :=
  match moment.1.home with
  | .absent => moment
  | .shared => (moment.1, { moment.2 with memory })
  | .own _ => ({ moment.1 with home := .own memory }, moment.2)

variable {before after : Moment} {bridge : Bridge} {memory next : LinearMemory}
  {others : Shared → Shared → Prop}

namespace Moment

theorem memory?_withMemory (found : before.memory? = some memory) :
    (before.withMemory next).memory? = some next := by
  obtain ⟨⟨id, objects, libraries, home, bridge, globals⟩, shared⟩ := before
  cases home with
  | absent => cases found
  | shared => rfl
  | own memory => rfl

theorem withMemory_self (found : before.memory? = some memory) :
    before.withMemory memory = before := by
  obtain ⟨⟨id, objects, libraries, home, bridge, globals⟩, shared⟩ := before
  cases home with
  | absent => rfl
  | shared => cases found; rfl
  | own memory => cases found; rfl

theorem withMemory_withMemory (first second : LinearMemory) :
    (before.withMemory first).withMemory second = before.withMemory second := by
  obtain ⟨⟨id, objects, libraries, home, bridge, globals⟩, shared⟩ := before
  cases home <;> rfl

/-- Everything of the context but the memory stays. -/
theorem frame_withMemory (moment : Moment) (memory : LinearMemory) :
    (moment.withMemory memory).1.id = moment.1.id ∧
      (moment.withMemory memory).1.objects = moment.1.objects ∧
      (moment.withMemory memory).1.libraries = moment.1.libraries ∧
      (moment.withMemory memory).1.bridge = moment.1.bridge := by
  obtain ⟨⟨id, objects, libraries, home, bridge, globals⟩, shared⟩ := moment
  cases home <;> exact ⟨rfl, rfl, rfl, rfl⟩

end Moment

theorem Activity.memory?_atOnce (before : Moment) :
    Activity.memory?.EndsAtOnce before before.memory? before := by
  obtain ⟨⟨id, objects, libraries, home, bridge, globals⟩, shared⟩ := before
  cases home <;> rfl

theorem Activity.setMemory_atOnce (before : Moment) (memory : LinearMemory) :
    (setMemory memory).EndsAtOnce before () (before.withMemory memory) := by
  obtain ⟨⟨id, objects, libraries, home, bridge, globals⟩, shared⟩ := before
  cases home <;> rfl

namespace Attempt

/-- The bridge of a context that has one, and the memory it leads to. -/
theorem bridged_atOnce (bound : before.1.bridge = some bridge)
    (found : before.memory? = some memory) :
    bridged.run.EndsAtOnce before (.ok (bridge, memory)) before := by
  have got : (get : Activity Context).EndsAtOnce before before.1 before := rfl
  refine .run_bind (.run_lift got) ?_
  refine .run_bind (.run_lift (memory?_atOnce before)) ?_
  rw [bound, found]
  exact .run_pure _

theorem bridged_atOnce_of_unbound (unbound : before.1.bridge = none ∨ before.memory? = none) :
    bridged.run.EndsAtOnce before (.error (.memoryUnavailable before.1.id)) before := by
  have got : (get : Activity Context).EndsAtOnce before before.1 before := rfl
  refine .run_bind (.run_lift got) ?_
  refine .run_bind (.run_lift (memory?_atOnce before)) ?_
  rcases unbound with unbound | missing
  · rw [unbound]
    exact .of_throw _
  · rw [missing]
    cases before.1.bridge <;> exact .of_throw _

variable (bound : before.1.bridge = some bridge) (found : before.memory? = some memory)
include bound found

theorem view_atOnce (offset length : UInt32) :
    (view offset length).run.EndsAtOnce before (bridge.view memory offset length) before :=
  .run_bind (bridged_atOnce bound found) (.of_except _)

theorem readText_atOnce (offset length : UInt32) :
    (readText offset length).run.EndsAtOnce before (bridge.readText memory offset length)
      before :=
  .run_bind (bridged_atOnce bound found) (.of_except _)

theorem write_atOnce (offset : UInt32) (bytes : Bytes)
    (fits : memory.fits offset.toNat bytes.length) :
    (write offset bytes).run.EndsAtOnce before (.ok ())
      (before.withMemory (memory.put offset.toNat bytes)) := by
  refine .run_bind (bridged_atOnce bound found) ?_
  dsimp only
  rw [Bridge.write_eq, if_pos fits]
  exact .run_lift (setMemory_atOnce before _)

theorem write_atOnce_of_outside (offset : UInt32) (bytes : Bytes)
    (outside : ¬ memory.fits offset.toNat bytes.length) :
    (write offset bytes).run.EndsAtOnce before
      (.error (memory.outside offset.toNat bytes.length)) before := by
  refine .run_bind (bridged_atOnce bound found) ?_
  dsimp only
  rw [Bridge.write_eq, if_neg outside]
  exact .of_throw _

end Attempt

/-! ## Code of a guest -/

namespace Guest

theorem memory_atOnce (before : Moment) :
    Guest.memory.run.EndsAtOnce before
      (match before.memory? with
        | some memory => .ok memory
        | none => .error .outOfBounds) before := by
  refine .run_bind (.run_lift (memory?_atOnce before)) ?_
  cases before.memory? with
  | none => exact .of_throw _
  | some memory => exact .run_pure _

theorem grow_atOnce (found : before.memory? = some memory) (pages : UInt32) :
    (grow pages).run.EndsAtOnce before
      (match memory.grow? pages.toNat with
        | some (old, _) => .ok (UInt32.ofNat old)
        | none => .ok refused)
      (match memory.grow? pages.toNat with
        | some (_, grown) => before.withMemory grown
        | none => before) := by
  have reached := memory_atOnce before
  rw [found] at reached
  refine .run_bind reached ?_
  cases memory.grow? pages.toNat with
  | none => exact .run_pure _
  | some result => exact .run_bind (.run_lift (setMemory_atOnce before result.2)) (.run_pure _)

end Guest

end WasmBridge
