import WasmBridge.Proofs.Context.Evolution
import WasmBridge.Proofs.Context.Requests
import WasmBridge.Proofs.Context.Storage

/-!
# Room in the guest

To hand bytes over, a context asks the guest for room and writes the bytes where the guest
says.  The guest may do anything meanwhile; the bytes go into the memory as it left it.
-/

namespace WasmBridge

open Activity

variable {again : Reentry} {others : Shared → Shared → Prop} {before middle after : Moment}
  {bridge : Bridge} {memory : LinearMemory} {bytes : Bytes}

/-- The offset that the guest answers with when it is asked for room. -/
def Guest.roomAt (results : List Wasm.Value) : UInt32 :=
  (results.headD (.word 0)).toWord

/-- What comes of bytes once the guest was asked for room for them. -/
def Moment.handOver (moment : Moment) (bytes : Bytes) :
    Except Guest.Trap (List Wasm.Value) → Except Fault GuestRange × Moment
  | .error trap => (.error (.guestTrap Wasm.Abi.reserveSpace trap.text), moment)
  | .ok results =>
    let offset := Guest.roomAt results
    match moment.1.bridge, moment.memory? with
    | some _, some memory =>
      if memory.fits offset.toNat bytes.length then
        (.ok ⟨offset, UInt32.ofNat bytes.length⟩,
          moment.withMemory (memory.put offset.toNat bytes))
      else (.error (memory.outside offset.toNat bytes.length), moment)
    | _, _ => (.error (.memoryUnavailable moment.1.id), moment)

/-- The guest made room for bytes: they fit at the offset that it answered with. -/
structure Moment.Roomy (moment : Moment) (length : Nat)
    (outcome : Except Guest.Trap (List Wasm.Value)) (offset : UInt32) (memory : LinearMemory) :
    Prop where
  answered : ∃ results, outcome = .ok results ∧ Guest.roomAt results = offset
  bound : moment.1.bridge.isSome
  found : moment.memory? = some memory
  fits : memory.fits offset.toNat length

theorem Moment.Roomy.handOver {outcome : Except Guest.Trap (List Wasm.Value)} {offset : UInt32}
    (roomy : before.Roomy bytes.length outcome offset memory) :
    before.handOver bytes outcome =
      (.ok ⟨offset, UInt32.ofNat bytes.length⟩,
        before.withMemory (memory.put offset.toNat bytes)) := by
  obtain ⟨⟨results, rfl, rfl⟩, bound, found, fits⟩ := roomy
  obtain ⟨bridge, bound⟩ := Option.isSome_iff_exists.mp bound
  simp only [Moment.handOver, bound, found, if_pos fits]

/-- Bytes were put into the memory from an offset on, and nothing else was changed. -/
def Handed (memory : LinearMemory) (offset : UInt32) (bytes : Bytes) (middle after : Moment) :
    Prop :=
  ∃ written, after = middle.withMemory written ∧ after.memory? = some written ∧
    written.pages = memory.pages ∧
    written.slice offset.toNat bytes.length = bytes ∧
    ∀ address, address < offset.toNat ∨ offset.toNat + bytes.length ≤ address →
      written.byteAt address = memory.byteAt address

theorem handed_withMemory {memory : LinearMemory} (found : middle.memory? = some memory)
    (offset : UInt32) (bytes : Bytes) :
    Handed memory offset bytes middle (middle.withMemory (memory.put offset.toNat bytes)) :=
  ⟨_, rfl, Moment.memory?_withMemory found, memory.pages_put _ _, memory.slice_put _ _,
    fun _ outside => memory.byteAt_put_of_outside outside⟩

theorem Moment.aside_withMemory (moment : Moment) (memory : LinearMemory) :
    moment.1.Aside (moment.withMemory memory).1 := by
  obtain ⟨number, objects, libraries, bridge⟩ := moment.frame_withMemory memory
  exact ⟨number, objects, libraries, fun has => bridge ▸ has⟩

/-- Nothing but the memory changes when bytes are handed over. -/
theorem Moment.aside_handOver (moment : Moment) (bytes : Bytes)
    (outcome : Except Guest.Trap (List Wasm.Value)) :
    moment.1.Aside (moment.handOver bytes outcome).2.1 := by
  cases outcome with
  | error trap => exact .refl _
  | ok results =>
      dsimp only [Moment.handOver]
      split
      · split
        · exact moment.aside_withMemory _
        · exact .refl _
      · exact .refl _

namespace Reentry

/-- What follows a call of an export goes on with its results, or ends in the trap. -/
theorem run_enter_bind {α : Type} (again : Reentry) (name : String) (args : List Wasm.Value)
    (next : List Wasm.Value → Attempt α) :
    (again.enter name args >>= next).run =
      again.call (.exported name) args >>= fun outcome =>
        match outcome with
        | .ok results => (next results).run
        | .error trap => pure (.error (.guestTrap name trap.text)) := by
  unfold enter
  rw [bind_assoc, ExceptT.run_bind]
  change (again.call (.exported name) args >>= fun outcome => pure (Except.ok outcome)) >>= _ = _
  rw [bind_assoc]
  congr 1
  funext outcome
  rw [pure_bind]
  cases outcome <;> rfl

theorem run_enterWithWords_bind {α : Type} (again : Reentry) (name : String) (args : List UInt32)
    (next : UInt32 → Attempt α) :
    (again.enterWithWords name args >>= next).run =
      again.call (.exported name) (args.map .word) >>= fun outcome =>
        match outcome with
        | .ok results => (next (results.headD (.word 0)).toWord).run
        | .error trap => pure (.error (.guestTrap name trap.text)) := by
  unfold enterWithWords
  rw [bind_assoc, run_enter_bind]
  rfl

/-- The write that follows when the guest made room ends at once. -/
theorem write_atOnce_of_results (moment : Moment) (bytes : Bytes) (results : List Wasm.Value) :
    (do Attempt.write (Guest.roomAt results) bytes
        return (⟨Guest.roomAt results, UInt32.ofNat bytes.length⟩ : GuestRange)).run.EndsAtOnce
      moment (moment.handOver bytes (.ok results)).1 (moment.handOver bytes (.ok results)).2 := by
  have unavailable (unbound : moment.1.bridge = none ∨ moment.memory? = none) :
      (Attempt.write (Guest.roomAt results) bytes).run.EndsAtOnce moment
        (.error (.memoryUnavailable moment.1.id)) moment :=
    .run_bind_error (Attempt.bridged_atOnce_of_unbound unbound)
  unfold Moment.handOver
  dsimp only
  cases bound : moment.1.bridge with
  | none => exact .run_bind_error (unavailable (.inl bound))
  | some bridge =>
      cases found : moment.memory? with
      | none => exact .run_bind_error (unavailable (.inr found))
      | some memory =>
          dsimp only
          split
          next fits => exact .run_bind (Attempt.write_atOnce bound found _ bytes fits) (.run_pure _)
          next outside =>
            exact .run_bind_error (Attempt.write_atOnce_of_outside bound found _ bytes outside)

/-! ## Bytes that are not handed over -/

theorem writeBytes_atOnce_of_unbound (unbound : before.1.bridge = none ∨ before.memory? = none) :
    (again.writeBytes bytes).run.EndsAtOnce before (.error (.memoryUnavailable before.1.id))
      before :=
  .run_bind_error (Attempt.bridged_atOnce_of_unbound unbound)

variable (bound : before.1.bridge = some bridge) (found : before.memory? = some memory)
include bound found

theorem writeBytes_atOnce_of_missing (missing : bridge.canReserve = false) :
    (again.writeBytes bytes).run.EndsAtOnce before
      (.error (.missingExport Wasm.Abi.reserveSpace)) before := by
  refine .run_bind (Attempt.bridged_atOnce bound found) ?_
  dsimp only
  rw [if_pos (by simp [missing])]
  exact .of_throw _

theorem writeBytes_atOnce_of_long (exported : bridge.canReserve)
    (long : UInt32.size ≤ bytes.length) :
    (again.writeBytes bytes).run.EndsAtOnce before (.error (memory.outside 0 bytes.length))
      before := by
  refine .run_bind (Attempt.bridged_atOnce bound found) ?_
  dsimp only
  rw [if_neg (by simp [exported]), if_pos long]
  exact .of_throw _

omit bound found

/-! ## Bytes that are handed over -/

/-- Every end of handing bytes over is an end of asking for room, and what comes of the
bytes there. -/
theorem endsAmid_writeBytes_iff {result : Except Fault GuestRange}
    (bound : before.1.bridge = some bridge) (found : before.memory? = some memory)
    (exported : bridge.canReserve) (short : bytes.length < UInt32.size) :
    (again.writeBytes bytes).run.EndsAmid others before result after ↔
      ∃ outcome middle,
        (again.call (.exported Wasm.Abi.reserveSpace)
          [.word (UInt32.ofNat bytes.length)]).EndsAmid others before outcome middle ∧
        (result, after) = middle.handOver bytes outcome := by
  unfold writeBytes
  rw [EndsAtOnce.run_endsAmid_bind_iff (Attempt.bridged_atOnce bound found)]
  dsimp only
  rw [if_neg (by simp [exported]), if_neg (Nat.not_le_of_lt short)]
  rw [run_enterWithWords_bind, endsAmid_bind_iff]
  refine exists_congr fun outcome => exists_congr fun middle => and_congr_right fun _ => ?_
  rw [Prod.ext_iff]
  cases outcome with
  | error trap => exact endsAmid_pure_iff
  | ok results => exact (write_atOnce_of_results middle bytes results).endsAmid_iff

/-- Nothing changes before the guest is asked for room, and nothing but the memory
afterwards. -/
theorem aside_of_writeBytes {result : Except Fault GuestRange}
    (ends : (again.writeBytes bytes).run.EndsAmid others before result after) :
    after = before ∨ ∃ outcome middle,
      (again.call (.exported Wasm.Abi.reserveSpace)
        [.word (UInt32.ofNat bytes.length)]).EndsAmid others before outcome middle ∧
      middle.1.Aside after.1 := by
  cases bound : before.1.bridge with
  | none => exact .inl ((writeBytes_atOnce_of_unbound (.inl bound)).endsAmid_iff.mp ends).2
  | some bridge =>
      cases found : before.memory? with
      | none => exact .inl ((writeBytes_atOnce_of_unbound (.inr found)).endsAmid_iff.mp ends).2
      | some memory =>
          cases exported : bridge.canReserve with
          | false =>
              exact .inl ((writeBytes_atOnce_of_missing bound found exported).endsAmid_iff.mp ends).2
          | true =>
              rcases Nat.lt_or_ge bytes.length UInt32.size with short | long
              · obtain ⟨outcome, middle, called, handed⟩ :=
                  (endsAmid_writeBytes_iff bound found exported short).mp ends
                have last : after = (middle.handOver bytes outcome).2 := congrArg Prod.snd handed
                rw [last]
                exact .inr ⟨outcome, middle, called, middle.aside_handOver bytes outcome⟩
              · exact .inl
                  ((writeBytes_atOnce_of_long bound found exported long).endsAmid_iff.mp ends).2

end Reentry

end WasmBridge
