import WasmBridge.Proofs.Context.Failure
import WasmBridge.Proofs.Context.Receipts
import WasmBridge.Proofs.Context.Storage

/-!
# Messages are contained

A message answers the guest with a word, whatever becomes of it and of the messages that
are sent while it is served.  The library it is for serves it once, with the bytes that
the memory held when it arrived, or not at all.
-/

namespace WasmBridge

open Activity

variable {host : Host} {again : Reentry} {others : Shared → Shared → Prop}
  {before after : Moment} {envelope : Wire.Envelope} {library : Library} {payload : Bytes}

/-! ## Messages that reach a library -/

/-- A message reaches a library with a payload: the context has a library of that number,
and the payload is empty or lies in the memory behind the bridge. -/
structure Moment.Reaches (moment : Moment) (envelope : Wire.Envelope) (library : Library)
    (payload : Bytes) : Prop where
  resolved : moment.1.libraries.resolve envelope.library = .ok library
  carried : (envelope.length = 0 ∧ payload = []) ∨
    ∃ bridge memory, moment.1.bridge = some bridge ∧ moment.memory? = some memory ∧
      memory.fits envelope.pointer.toNat envelope.length.toNat ∧
      payload = memory.slice envelope.pointer.toNat envelope.length.toNat

/-- The payload that a message finds, or the fault of finding none. -/
def Moment.payloadOf (moment : Moment) (envelope : Wire.Envelope) : Except Fault Bytes :=
  if envelope.length = 0 then .ok []
  else match moment.1.bridge, moment.memory? with
    | some bridge, some memory => bridge.view memory envelope.pointer envelope.length
    | _, _ => .error (.memoryUnavailable moment.1.id)

theorem Moment.payloadOf_eq_ok_iff :
    before.payloadOf envelope = .ok payload ↔
      (envelope.length = 0 ∧ payload = []) ∨
      ∃ bridge memory, before.1.bridge = some bridge ∧ before.memory? = some memory ∧
        memory.fits envelope.pointer.toNat envelope.length.toNat ∧
        payload = memory.slice envelope.pointer.toNat envelope.length.toNat := by
  unfold Moment.payloadOf
  by_cases empty : envelope.length = 0
  · rw [if_pos empty]
    constructor
    · intro found
      cases found
      exact Or.inl ⟨empty, rfl⟩
    · rintro (⟨-, rfl⟩ | ⟨_, memory, _, _, _, rfl⟩)
      · rfl
      · simp [empty, LinearMemory.slice]
  · rw [if_neg empty]
    cases bound : before.1.bridge with
    | none => simp [empty]
    | some bridge =>
        cases found : before.memory? with
        | none => simp [empty]
        | some memory =>
            simp only [Bridge.view_eq]
            by_cases fits : memory.fits envelope.pointer.toNat envelope.length.toNat
            · have same (copied : Bytes) : copied = payload ↔ payload = copied := eq_comm
              simp [empty, fits, same]
            · simp [empty, fits]

/-- A message carries what is at the start of a page, if that is where it points. -/
theorem Moment.payloadOf_of_page {bridge : Bridge} {limit : Nat}
    (bound : before.1.bridge = some bridge) (found : before.memory? = some (.page limit payload))
    (start : envelope.pointer = 0) (whole : envelope.length.toNat = payload.length)
    (short : payload.length ≤ 65536) : before.payloadOf envelope = .ok payload := by
  refine Moment.payloadOf_eq_ok_iff.mpr (.inr ⟨bridge, _, bound, found, ?_, ?_⟩)
  · rw [whole, start]
    exact LinearMemory.fits_page limit short
  · rw [whole, start]
    exact (LinearMemory.slice_page limit payload).symm

theorem Moment.reaches_iff :
    before.Reaches envelope library payload ↔
      before.1.libraries.resolve envelope.library = .ok library ∧
        before.payloadOf envelope = .ok payload := by
  rw [Moment.payloadOf_eq_ok_iff]
  exact ⟨fun reaches => ⟨reaches.resolved, reaches.carried⟩,
    fun ⟨resolved, carried⟩ => ⟨resolved, carried⟩⟩

theorem Registry.resolve_of_isControl (registry : Registry) (control : envelope.isControl) :
    registry.resolve envelope.library = .error (.unknownLibrary envelope.library) := by
  have first : envelope.library = Wire.controlLibrary := eq_of_beq control
  unfold resolve
  rw [if_pos]
  rw [first]
  decide

/-- What a library of the context is addressed by is not for the control library. -/
theorem Registry.isControl_of_resolve {registry : Registry}
    (resolved : registry.resolve envelope.library = .ok library) : envelope.isControl = false := by
  cases control : envelope.isControl with
  | false => rfl
  | true =>
      rw [registry.resolve_of_isControl control] at resolved
      cases resolved

theorem Moment.Reaches.isControl (reaches : before.Reaches envelope library payload) :
    envelope.isControl = false :=
  Registry.isControl_of_resolve reaches.resolved

namespace Host

theorem payload_done :
    (Host.payload envelope).run before.1 before.2 =
      .done before.2 (before.payloadOf envelope, before.1) := by
  unfold Host.payload Moment.payloadOf
  by_cases empty : envelope.length = 0
  · rw [if_pos empty, if_pos empty]
    rfl
  · rw [if_neg empty, if_neg empty]
    unfold Moment.memory?
    obtain ⟨context, shared⟩ := before
    obtain ⟨id, objects, libraries, home, bridge, globals⟩ := context
    cases home <;> cases bridge <;> rfl

/-- What is not for the control library is routed in three steps: its library is looked
up, its payload is copied, and the library serves it. -/
theorem route_eq (host : Host) (again : Reentry) (before : Moment)
    (other : envelope.isControl = false) :
    (host.route again envelope).run before.1 before.2 =
      (match before.1.libraries.resolve envelope.library with
        | .error fault => (pure (.error fault) : Activity (Except Fault UInt32))
        | .ok library =>
          match before.payloadOf envelope with
          | .error fault => pure (.error fault)
          | .ok payload => do
            let result ← host.run again (library.serve envelope.command payload)
            return result.mapError (failureFault envelope.library)) before.1 before.2 := by
  unfold Host.route
  rw [if_neg (by simp [other])]
  change ExceptT.run (ExceptT.mk (pure (before.1.libraries.resolve envelope.library)) >>=
    fun library => Host.payload envelope >>= fun payload => host.serve again envelope.library
      (library.serve envelope.command payload) : Attempt UInt32) before.1 before.2 = _
  cases before.1.libraries.resolve envelope.library with
  | error fault => rfl
  | ok library =>
      change Thread.andThen _ ((Host.payload envelope).run before.1 before.2) = _
      rw [payload_done]
      cases before.payloadOf envelope with
      | error fault => rfl
      | ok payload =>
          change (host.serve again envelope.library
            (library.serve envelope.command payload)).run before.1 before.2 = _
          rw [serve_eq]
          rfl

/-- The library that a message reaches serves it. -/
theorem endsAmid_route_of_reaches (reaches : before.Reaches envelope library payload)
    {outcome : Except Fault UInt32} :
    (host.route again envelope).run.EndsAmid others before outcome after ↔
      ∃ result, (host.run again (library.serve envelope.command payload)).EndsAmid others before
        result after ∧ outcome = result.mapError (failureFault envelope.library) := by
  obtain ⟨resolved, carried⟩ := Moment.reaches_iff.mp reaches
  have routed := route_eq host again before reaches.isControl
  simp only [resolved, carried] at routed
  unfold EndsAmid
  rw [routed]
  change EndsAmid others (_ >>= _) before outcome after ↔ _
  rw [endsAmid_bind_iff]
  constructor
  · rintro ⟨result, middle, ran, rest⟩
    obtain ⟨rfl, rfl⟩ := endsAmid_pure_iff.mp rest
    exact ⟨result, ran, rfl⟩
  · rintro ⟨result, ran, rfl⟩
    exact ⟨result, after, ran, endsAmid_pure_iff.mpr ⟨rfl, rfl⟩⟩

/-- A message that reaches no library settles with a fault and no change. -/
theorem settles_route_of_not_reaches {known : Except Fault UInt32 → Moment → Prop}
    (other : envelope.isControl = false)
    (unreached : ∀ library payload, ¬ before.Reaches envelope library payload)
    (fails : ∀ fault, known (.error fault) before) :
    Settles (host.route again envelope) before known := by
  have routed := route_eq host again before other
  cases resolved : before.1.libraries.resolve envelope.library with
  | error fault =>
      simp only [resolved] at routed
      exact ⟨_, before, routed, fails fault⟩
  | ok library =>
      cases carried : before.payloadOf envelope with
      | error fault =>
          simp only [resolved, carried] at routed
          exact ⟨_, before, routed, fails fault⟩
      | ok payload =>
          exact absurd (Moment.reaches_iff.mpr ⟨resolved, carried⟩) (unreached library payload)

/-- A message that reaches no library is refused, and nothing happens. -/
theorem endsAmid_route_of_not_reaches (host : Host) (again : Reentry)
    (others : Shared → Shared → Prop) (other : envelope.isControl = false)
    (unreached : ∀ library payload, ¬ before.Reaches envelope library payload) :
    ∃ fault, ∀ outcome after,
      (host.route again envelope).run.EndsAmid others before outcome after ↔
        outcome = .error fault ∧ after = before := by
  have settles : Settles (host.route again envelope) before fun outcome after =>
      ∃ fault, outcome = .error fault ∧ after = before :=
    settles_route_of_not_reaches other unreached fun fault => ⟨fault, rfl, rfl⟩
  obtain ⟨_, _, ends, fault, rfl, rfl⟩ := settles
  exact ⟨fault, fun outcome after => ends.endsAmid_iff⟩

end Host

/-! ## Messages come to an end -/

variable {depth : Nat} {α : Type}

/-- What is composed without code of the guest comes to an end wherever what it enters does. -/
theorem Composed.exists_endsAmid {activity : Reentry → Activity α}
    (composed : Composed host False (fun _ => True) activity)
    (calls : ∀ designator args moment, ∃ outcome later,
      (again.call designator args).EndsAmid others moment outcome later)
    (routes : ∀ envelope moment, ∃ outcome later,
      (again.route envelope).EndsAmid others moment outcome later) :
    ∀ moment, ∃ answer later, (activity again).EndsAmid others moment answer later := by
  induction composed with
  | own steps =>
      intro moment
      obtain ⟨value, last, events, done, -⟩ := steps moment
      exact ⟨value, last, (endsAmid_of_done done).mpr ⟨rfl, rfl⟩⟩
  | wait impossible => exact impossible.elim
  | call designator args => exact calls designator args
  | route envelope => exact routes envelope
  | deliver impossible => exact impossible.elim
  | bind _ _ first_ih rest_ih =>
      intro moment
      obtain ⟨value, middle, first⟩ := first_ih moment
      obtain ⟨answer, later, rest⟩ := rest_ih value middle
      exact ⟨answer, later, endsAmid_bind_iff.mpr ⟨value, middle, first, rest⟩⟩

/-- Code of the guest comes to an end, called at any depth below this one. -/
def Host.CallsEnd (host : Host) (others : Shared → Shared → Prop) (depth : Nat) : Prop :=
  ∀ level < depth, ∀ designator args moment, ∃ outcome later,
    ((host.reentry level).call designator args).EndsAmid others moment outcome later

theorem Host.exists_endsAmid_route (calls : host.CallsEnd others depth) :
    ∀ envelope moment, ∃ outcome later,
      ((host.reentry depth).route envelope).EndsAmid others moment outcome later := by
  induction depth with
  | zero =>
      intro envelope moment
      exact ⟨_, moment, endsAmid_pure_iff.mpr ⟨rfl, rfl⟩⟩
  | succ depth ih =>
      intro envelope
      have below : host.CallsEnd others depth := fun level deeper =>
        calls level (Nat.lt_succ_of_lt deeper)
      exact (Composed.of_route envelope).exists_endsAmid
        (fun designator args => calls depth (Nat.lt_succ_self depth) designator args) (ih below)

/-! ## Containment -/

/-- A guest that sends a message gets a word and goes on. -/
theorem Guest.endsAmid_send_iff {result : Except Guest.Trap UInt32} :
    (Guest.send again envelope.library envelope.command envelope.pointer
        envelope.length).run.EndsAmid others before result after ↔
      ∃ answer, result = .ok answer ∧
        (again.deliver envelope).EndsAmid others before answer after := by
  change EndsAmid others (again.deliver envelope >>= fun answer => pure (.ok answer)) before
    result after ↔ _
  rw [endsAmid_bind_iff]
  constructor
  · rintro ⟨answer, middle, delivered, rest⟩
    obtain ⟨rfl, rfl⟩ := endsAmid_pure_iff.mp rest
    exact ⟨answer, rfl, delivered⟩
  · rintro ⟨answer, rfl, delivered⟩
    exact ⟨answer, after, delivered, endsAmid_pure_iff.mpr ⟨rfl, rfl⟩⟩

/-- How a message that is sent at a moment is contained.  What serves it enters the context
again to a depth, and the other contexts report no failures in the name of this one. -/
structure Contained (host : Host) (depth : Nat) (envelope : Wire.Envelope) (before : Moment) :
    Prop where
  /-- The guest gets a word and no trap. -/
  word : ∀ result after,
    (Guest.send (host.reentry (depth + 1)) envelope.library envelope.command envelope.pointer
      envelope.length).run.EndsAmid (Shared.Spares before.1.id) before result after ↔
    ∃ answer, result = .ok answer ∧
      ((host.reentry (depth + 1)).deliver envelope).EndsAmid (Shared.Spares before.1.id) before
        answer after
  /-- It gets one if the code that is entered meanwhile comes to an end. -/
  ends : host.CallsEnd (Shared.Spares before.1.id) (depth + 1) → ∃ answer after,
    ((host.reentry (depth + 1)).deliver envelope).EndsAmid (Shared.Spares before.1.id) before
      answer after
  /-- Of this message and those in it the failed ones are reported, each once, and nothing
  else is reported as failed. -/
  reported : ∀ answer after,
    ((host.reentry (depth + 1)).deliver envelope).EndsAmid (Shared.Spares before.1.id) before
      answer after →
    ∃ outcome middle nested,
      Traced host (Shared.Spares before.1.id) depth
        (fun again => (host.route again envelope).run) before nested outcome middle ∧
      answer = outcome.toOption.getD 0 ∧
      after = middle.closing ⟨envelope, outcome⟩ ∧
      after.2.failures before.1.id = before.2.failures before.1.id ++
        (nested ++ [Message.sent ⟨envelope, outcome⟩]).filterMap
          (Message.failure? before.1.id)
  /-- A library that the message reaches serves it once, with the bytes that the memory
  holds at this moment.  The word is what it answers, or 0 if it fails. -/
  served : ∀ library payload, before.Reaches envelope library payload → ∀ answer after,
    ((host.reentry (depth + 1)).deliver envelope).EndsAmid (Shared.Spares before.1.id) before
      answer after ↔
    ∃ result middle,
      (host.run (host.reentry depth) (library.serve envelope.command payload)).EndsAmid
        (Shared.Spares before.1.id) before result middle ∧
      answer = result.toOption.getD 0 ∧
      after = middle.closing ⟨envelope, result.mapError (Host.failureFault envelope.library)⟩
  /-- Else no library serves it, and nothing happens but the report. -/
  refused : envelope.isControl = false →
    (∀ library payload, ¬ before.Reaches envelope library payload) →
    ∃ fault, ∀ answer after,
      ((host.reentry (depth + 1)).deliver envelope).EndsAmid (Shared.Spares before.1.id) before
        answer after ↔
      answer = 0 ∧ after = before.closing ⟨envelope, .error fault⟩
  /-- What is for the control library reaches no library of the context. -/
  control : envelope.isControl = true →
    ∀ library payload, ¬ before.Reaches envelope library payload
  /-- A command that the library does not know is reported under the number it was
  addressed by. -/
  unknownCommand : ∀ library payload number command middle,
    before.Reaches envelope library payload →
    (host.run (host.reentry depth) (library.serve envelope.command payload)).EndsAmid
      (Shared.Spares before.1.id) before (.error (.fault (.unknownCommand number command)))
      middle →
    ((host.reentry (depth + 1)).deliver envelope).EndsAmid (Shared.Spares before.1.id) before 0
      (middle.closing ⟨envelope, .error (.unknownCommand envelope.library command)⟩)

/-- The reports of a message are those of the messages in it and its own. -/
theorem Traced.reported_of_deliver {answer : UInt32}
    (ends : ((host.reentry (depth + 1)).deliver envelope).EndsAmid (Shared.Spares before.1.id)
      before answer after) :
    ∃ outcome middle nested,
      Traced host (Shared.Spares before.1.id) depth
        (fun again => (host.route again envelope).run) before nested outcome middle ∧
      answer = outcome.toOption.getD 0 ∧
      after = middle.closing ⟨envelope, outcome⟩ ∧
      after.2.failures before.1.id = before.2.failures before.1.id ++
        (nested ++ [Message.sent ⟨envelope, outcome⟩]).filterMap
          (Message.failure? before.1.id) := by
  obtain ⟨outcome, middle, routed, rfl, rfl⟩ := Reentry.endsAmid_deliver_iff.mp ends
  obtain ⟨-, serves⟩ := Traced.of_reentry host (Shared.Spares before.1.id) (depth + 1)
  obtain ⟨nested, served⟩ := serves depth rfl envelope before outcome middle routed
  have delivered := Traced.deliver served
  exact ⟨outcome, middle, nested, served, rfl, rfl, (delivered.failures rfl).2⟩

/-- Every message is contained, at every depth and from every moment. -/
theorem every_message_contained (host : Host) (depth : Nat) (envelope : Wire.Envelope)
    (before : Moment) : Contained host depth envelope before where
  word _ _ := Guest.endsAmid_send_iff
  ends calls := by
    obtain ⟨outcome, middle, routed⟩ := Host.exists_endsAmid_route calls envelope before
    exact ⟨_, _, Reentry.endsAmid_deliver_iff.mpr ⟨outcome, middle, routed, rfl, rfl⟩⟩
  reported _ _ ends := Traced.reported_of_deliver ends
  served library payload reaches answer after := by
    rw [Reentry.endsAmid_deliver_iff]
    constructor
    · rintro ⟨outcome, middle, routed, rfl, rfl⟩
      obtain ⟨result, ran, rfl⟩ := (Host.endsAmid_route_of_reaches reaches).mp routed
      refine ⟨result, middle, ran, ?_, rfl⟩
      cases result <;> rfl
    · rintro ⟨result, middle, ran, rfl, rfl⟩
      refine ⟨_, middle, (Host.endsAmid_route_of_reaches reaches).mpr ⟨result, ran, rfl⟩, ?_, rfl⟩
      cases result <;> rfl
  refused other unreached := by
    obtain ⟨fault, routed⟩ := Host.endsAmid_route_of_not_reaches host (host.reentry depth)
      (Shared.Spares before.1.id) other unreached
    refine ⟨fault, fun answer after => ?_⟩
    rw [Reentry.endsAmid_deliver_iff]
    constructor
    · rintro ⟨outcome, middle, ends, rfl, rfl⟩
      obtain ⟨rfl, rfl⟩ := (routed outcome middle).mp ends
      exact ⟨rfl, rfl⟩
    · rintro ⟨rfl, rfl⟩
      exact ⟨_, before, (routed _ _).mpr ⟨rfl, rfl⟩, rfl, rfl⟩
  control control library payload reaches := by
    have unknown := Registry.resolve_of_isControl before.1.libraries control
    rw [reaches.resolved] at unknown
    cases unknown
  unknownCommand library payload number command middle reaches ran :=
    Reentry.endsAmid_deliver_iff.mpr ⟨_, middle,
      (Host.endsAmid_route_of_reaches reaches).mpr ⟨_, ran, rfl⟩, rfl, rfl⟩

/-- A guest that is asked for room sends a message to a library that is not there, and
traps. -/
def refusingRoom : Wasm.Function where
  name := Wasm.Abi.reserveSpace
  type := Wasm.Abi.reserveSpaceType
  body := [.compute (.send (.word 9) (.word 0) (.word 0) (.word 0)), .trap]

/-- A library that hands over what it is sent. -/
def handingOver : Library :=
  Samples.library "echo_bytes" "handing over"

def Host.refusingRoom : Host :=
  .ofModule "refusing room" { functions := [WasmBridge.refusingRoom] } .exported

def Moment.handingOver : Moment :=
  .withLibrary (.owning .refusingRoom (.page 1 []) true) WasmBridge.handingOver

/-- A guest that traps while its host asks it for room is not stopped by that: it gets 0,
and both messages are reported, the inner one first. -/
theorem contained_refusing_room :
    Contained Host.refusingRoom 3 ⟨2, 0, 0, 0⟩ Moment.handingOver ∧
      ((Host.refusingRoom.reentry 4).deliver ⟨2, 0, 0, 0⟩).EndsAmid
        (Shared.Spares mainContext) Moment.handingOver 0
        (Moment.handingOver.1, { log := #[
          (mainContext, .messageFailed mainContext 9 0 (.unknownLibrary 9)),
          (mainContext, .messageFailed mainContext 2 0
            (.guestTrap Wasm.Abi.reserveSpace Guest.Trap.unreachable.text))] }) :=
  ⟨every_message_contained _ _ _ _, (endsAmid_of_done rfl).mpr ⟨rfl, rfl⟩⟩

end WasmBridge
