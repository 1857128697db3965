import WasmBridge.Proofs.Context.Containment
import WasmBridge.Proofs.Context.Programs
import WasmBridge.Proofs.Text.Utf8

/-!
# Messages that are served at once

A message that is served without entering the guest has one end.  The guest gets the word
that answers it, and its outcome is put down.
-/

namespace WasmBridge

open Activity

variable {host : Host} {again : Reentry} {others : Shared → Shared → Prop}
  {before after : Moment} {envelope : Wire.Envelope}

namespace Host

/-- Ways of entering again by which messages are routed, and served in these ways in turn. -/
def serving (host : Host) (again : Reentry) : Reentry where
  call := again.call
  route envelope := (host.route again envelope).run

/-- A host serves messages so at every depth. -/
theorem deliver_reentry (host : Host) (depth : Nat) (envelope : Wire.Envelope) :
    (host.reentry (depth + 1)).deliver envelope =
      (host.serving (host.reentry depth)).deliver envelope :=
  rfl

variable {library : Library} {payload : Bytes} {known : Except Fault UInt32 → Moment → Prop}

/-- A message settles as the program that serves it does. -/
theorem settles_route_of_reaches (reaches : before.Reaches envelope library payload)
    (served : host.CarriesOut again (library.serve envelope.command payload) before
      fun result after => known (result.mapError (failureFault envelope.library)) after) :
    Settles (host.route again envelope) before known := by
  obtain ⟨result, after, ends, holds⟩ := served
  obtain ⟨resolved, carried⟩ := Moment.reaches_iff.mp reaches
  have routed := route_eq host again before reaches.isControl
  simp only [resolved, carried] at routed
  exact ⟨_, after, routed.trans (EndsAtOnce.bind ends rfl), holds⟩

/-- A message to the control library settles as its command does. -/
theorem settles_route_of_isControl (control : envelope.isControl)
    (serves : ∀ command, Wire.ControlCommand.ofWord envelope.command = .ok command →
      Settles (host.control again command envelope) before known)
    (fails : ∀ fault, Wire.ControlCommand.ofWord envelope.command = .error fault →
      known (.error fault) before) :
    Settles (host.route again envelope) before known := by
  unfold route
  rw [if_pos control]
  exact .bind_of_inspection (.of_except _) serves fails

theorem settles_route_of_commands {command : Wire.ControlCommand}
    (commands : envelope.Commands command)
    (served : Settles (host.control again command envelope) before known) :
    Settles (host.route again envelope) before known := by
  refine settles_route_of_isControl commands.control (fun other named => ?_) fun fault unknown => ?_
  · cases commands.addressed.symm.trans named
    exact served
  · cases commands.addressed.symm.trans unknown

/-- A library that the host offers is registered under the number that is next. -/
theorem newLibrary_atOnce {name : String} (control : envelope.isControl)
    (addressed : envelope.command = Wire.ControlCommand.newLibrary.toWord)
    (carried : before.payloadOf envelope = .ok (Text.Utf8.encode name))
    (found : host.catalog.find name = .ok library) :
    (host.route again envelope).run.EndsAtOnce before (.ok before.1.libraries.nextId)
      ({ before.1 with libraries := (before.1.libraries.register library).2 },
        { before.2 with
          log := before.2.log.push (before.1.id,
            .libraryRegistered before.1.id name before.1.libraries.nextId) }) := by
  have copied : (Host.payload envelope).run.EndsAtOnce before (before.payloadOf envelope) before :=
    payload_done
  rw [carried] at copied
  have read : (Host.payloadText envelope).run.EndsAtOnce before (.ok name) before := by
    refine .run_bind copied ?_
    rw [decodeText_eq_ok_iff.mpr rfl]
    exact .of_except _
  unfold route
  rw [if_pos control, addressed, Wire.ControlCommand.ofWord_toWord]
  refine .run_bind (.of_except _) (.run_bind read ?_)
  rw [found]
  rfl

end Host

/-- A message that ends at once is delivered at once. -/
theorem Reentry.deliver_atOnce {outcome : Except Fault UInt32}
    (routed : (again.route envelope).EndsAtOnce before outcome after) :
    (again.deliver envelope).EndsAtOnce before (Receipt.answer ⟨envelope, outcome⟩)
      (after.closing ⟨envelope, outcome⟩) := by
  refine EndsAtOnce.bind routed ?_
  cases outcome <;> rfl

/-- The objects library serves each of its commands. -/
theorem Objects.serve_toWord (command : Wire.ObjectCommand) (payload : Bytes) :
    Objects.library.serve command.toWord payload = Objects.serveCommand command payload := by
  change (Program.ofExcept (Wire.ObjectCommand.ofWord command.toWord) >>= fun command =>
    Objects.serveCommand command payload) = _
  rw [Wire.ObjectCommand.ofWord_toWord]
  rfl

end WasmBridge
