import WasmBridge.Proofs.Context.Delivery
import WasmBridge.Proofs.Context.Instances

/-!
# Contexts without a bridge

As long as a context has no bridge, what its guest sends along with a message cannot be read.
A command that reads it is refused then, and nothing that guest code or a message does binds a
bridge or takes one away.
-/

namespace WasmBridge

open Activity

variable {host : Host} {again : Reentry} {others : Shared → Shared → Prop}
  {before middle after : Moment} {depth : Nat} {envelope : Wire.Envelope} {α : Type}

/-! ## Payloads that cannot be read -/

/-- The command reads the payload of its message. -/
def Wire.ControlCommand.readsPayload : Wire.ControlCommand → Bool
  | newLibrary | log | logError | spawnWorker | getProperty => true
  | tlsSize | tlsAlign | availableThreads | reserved => false

/-- The message is for the control library, and has a payload that its command reads. -/
structure Wire.Envelope.IsLoaded (envelope : Wire.Envelope) : Prop where
  filled : envelope.length ≠ 0
  commands : ∃ command, envelope.Commands command ∧ command.readsPayload = true

namespace Host

theorem payload_of_unbound (unbound : before.1.bridge = none) (filled : envelope.length ≠ 0) :
    (payload envelope).run.EndsAtOnce before (.error (.memoryUnavailable before.1.id)) before := by
  unfold payload
  rw [if_neg filled]
  exact .run_bind_error (Attempt.bridged_atOnce_of_unbound (.inl unbound))

theorem control_of_unbound {command : Wire.ControlCommand} (unbound : before.1.bridge = none)
    (filled : envelope.length ≠ 0) (reads : command.readsPayload = true) :
    (host.control again command envelope).run.EndsAtOnce before
      (.error (.memoryUnavailable before.1.id)) before := by
  have refused := payload_of_unbound unbound filled
  cases command with
  | newLibrary | log | logError => exact .run_bind_error (.run_bind_error refused)
  | spawnWorker | getProperty => exact .run_bind_error refused
  | tlsSize | tlsAlign | availableThreads | reserved => cases reads

/-- Without a bridge a payload that should be read is missed at once. -/
theorem route_of_unbound (unbound : before.1.bridge = none) (loaded : envelope.IsLoaded) :
    (host.route again envelope).run.EndsAtOnce before
      (.error (.memoryUnavailable before.1.id)) before := by
  obtain ⟨filled, command, commands, reads⟩ := loaded
  refine Settles.endsAtOnce (settles_route_of_commands commands ⟨_, _, ?_, rfl, rfl⟩)
  exact control_of_unbound unbound filled reads

end Host

/-! ## Runs without a bridge -/

/-- The payload of a message was not read because there was no bridge to the memory, if it was to
be read at all. -/
def Receipt.Unheard (id : UInt32) (receipt : Receipt) : Prop :=
  receipt.envelope.IsLoaded → receipt.outcome = .error (.memoryUnavailable id)

/-- From one moment to another a context keeps its number and its bridge, and as long as it has
none the messages between go unheard. -/
structure Moment.Proceeds (before : Moment) (messages : List Message) (after : Moment) : Prop where
  number : after.1.id = before.1.id
  bridge : after.1.bridge = before.1.bridge
  unheard : before.1.bridge = none → ∀ message ∈ messages, message.receipt.Unheard before.1.id

namespace Moment.Proceeds

variable {early late messages : List Message}

theorem of_context (same : after.1 = before.1) : before.Proceeds [] after :=
  ⟨by rw [same], by rw [same], fun _ => nofun⟩

theorem of_confinedStep {allows : Context.Event → Prop}
    (step : ConfinedStep host allows before after) : before.Proceeds [] after :=
  ⟨step.own.failures.1, step.keeps.context.bridge, fun _ => nofun⟩

theorem trans (first : before.Proceeds early middle) (rest : middle.Proceeds late after) :
    before.Proceeds (early ++ late) after where
  number := rest.number.trans first.number
  bridge := rest.bridge.trans first.bridge
  unheard unbound := by
    refine List.forall_mem_append.mpr ⟨first.unheard unbound, ?_⟩
    rw [← first.number]
    exact rest.unheard (first.bridge.trans unbound)

/-- A message that was served goes unheard if there was no bridge. -/
theorem concat {message : Message} {outcome : Except Fault UInt32}
    (proceeds : before.Proceeds messages after)
    (served : (host.route again envelope).run.EndsAmid others before outcome after)
    (receipt : message.receipt = ⟨envelope, outcome⟩) :
    before.Proceeds (messages ++ [message]) after where
  number := proceeds.number
  bridge := proceeds.bridge
  unheard unbound := by
    refine List.forall_mem_append.mpr ⟨proceeds.unheard unbound, ?_⟩
    refine List.forall_mem_singleton.mpr fun loaded => ?_
    rw [receipt] at loaded ⊢
    exact ((Host.route_of_unbound unbound loaded).endsAmid_iff.mp served).1

theorem closing {receipt : Receipt} (proceeds : before.Proceeds messages after) :
    before.Proceeds messages (after.closing receipt) where
  number := by rw [Moment.closing_id, proceeds.number]
  bridge := by rw [Moment.closing_id, proceeds.bridge]
  unheard := proceeds.unheard

end Moment.Proceeds

/-- However the messages of a run are found, the context proceeds with them. -/
theorem Traced.proceeds {activity : Reentry → Activity α} {messages : List Message} {answer : α}
    (traced : Traced host others depth activity before messages answer after) :
    before.Proceeds messages after := by
  induction traced with
  | own _ step => exact .of_confinedStep step
  | wait ends => exact .of_context (unchanged_of_waitUntil ends).1
  | call _ ih => exact ih
  | callTooDeep => exact .of_context rfl
  | deliver served ih => exact (ih.concat served.endsAmid rfl).closing
  | route served ih => exact ih.concat served.endsAmid rfl
  | routeTooDeep => exact .of_context rfl
  | bind _ _ first rest => exact first.trans rest

end WasmBridge
