import WasmBridge.Context.Reentry
import WasmBridge.Library.Objects

/-!
# Routing messages

A message goes to the control library or to a library of the context, with a
copy of its payload.  Nothing that goes wrong while it is served reaches the
guest as a trap: `deliver` reports the fault and answers 0.
-/

namespace WasmBridge

namespace Host

/-- How many worker threads a guest may count on: one if no worker can be
started, the greatest number of workers if there is one, and otherwise as many as
the machine runs. -/
def availableThreads (host : Host) : UInt32 :=
  if host.config.threads && host.plan.isShared then
    host.config.workers.getD host.machineThreads
  else 1

/-- Start a worker. -/
def spawn (host : Host) (launch : Wire.Launch) : Attempt UInt32 := do
  if ¬ host.config.threads then
    throw (.threadsUnavailable "threads are disabled")
  else if ¬ host.plan.isShared then
    throw (.threadsUnavailable "the module does not import shared memory")
  else
    let shared ← (Activity.shared : Activity Shared)
    match shared.pool.spawn host.config.workers launch with
    | .ok (worker, pool) =>
      (Activity.changeShared fun shared => ((), { shared with pool }) : Activity Unit)
      return worker
    | .error fault => throw fault

/-- The word of an exported global of the instance. -/
def exportedWord? (host : Host) (name : String) : Activity (Option UInt32) := do
  match host.module.exportedGlobal? name with
  | some type =>
    if type.type = .i32 then return ((← get).global? (.exported name)).map Wasm.Value.toWord
    else return none
  | none => return none

/-- The response of the context to a request of a library. -/
def respond (host : Host) (again : Reentry) : (request : Request) → Activity request.Response
  | .contextId => return (← get).id
  | .lookup handle => (Attempt.lookup handle).run
  | .insert value => (Attempt.insert value).run
  | .release handle => Activity.release handle
  | .liveCount => return (← get).objects.length
  | .globalObject => return host.globalObject
  | .property value name => return (← Activity.heap).property? name value
  | .setProperty id name value => Activity.changeShared fun shared =>
    (shared.heap.get? id name, { shared with heap := shared.heap.set id name value })
  | .propertyCount id => return ((← Activity.heap).names id).length
  | .textOf value => return (← Activity.heap).toText value
  | .apply function this args => Activity.changeShared fun shared =>
    let (answer, heap) := shared.functions.apply function this args shared.heap
    (answer, { shared with heap })
  | .memorySize => Attempt.memorySize.run
  | .view offset length => (Attempt.view offset length).run
  | .write offset bytes => (Attempt.write offset bytes).run
  | .readText offset length => (Attempt.readText offset length).run
  | .writeBytes bytes => (again.writeBytes bytes).run
  | .libraryCount => return (← get).libraries.length
  | .availableThreads => return host.availableThreads
  | .route envelope => again.route envelope
  | .note remark => Activity.changeShared fun shared =>
    ((), { shared with journal := shared.journal.push remark })

/-- Run the program of a library in the context. -/
def run {α : Type} (host : Host) (again : Reentry) : Program α → Activity (Except Failure α)
  | .answer value => return .ok value
  | .fail failure => return .error failure
  | .request request next => do
    let response ← host.respond again request
    run host again (next response)

/-- The fault of a library that failed.  A library does not know its number, so an
unknown command is reported under the one it was addressed by. -/
def failureFault (library : UInt32) : Failure → Fault
  | .fault (.unknownCommand _ command) => .unknownCommand library command
  | .fault fault => fault
  | .panic panic => .libraryPanic library panic.text

/-- Serve a message by a program. -/
def serve (host : Host) (again : Reentry) (library : UInt32) (program : Program UInt32) :
    Attempt UInt32 := do
  match ← host.run again program with
  | .ok answer => return answer
  | .error failure => throw (failureFault library failure)

/-- A copy of the payload of a message.  An empty payload needs no memory. -/
def payload (envelope : Wire.Envelope) : Attempt Bytes :=
  if envelope.length = 0 then return []
  else Attempt.view envelope.pointer envelope.length

/-- The payload of a message as text. -/
def payloadText (envelope : Wire.Envelope) : Attempt String := do
  let bytes ← payload envelope
  ExceptT.mk (pure (decodeText bytes envelope.pointer))

/-- Log the payload of a message at a level. -/
def logPayload (envelope : Wire.Envelope) (level : Log.Level) : Attempt UInt32 := do
  let text ← payloadText envelope
  Activity.report (.guestText (← (get : Activity Context)).id level text)
  return 0

/-- Serve a command of the control library. -/
def control (host : Host) (again : Reentry) (command : Wire.ControlCommand)
    (envelope : Wire.Envelope) : Attempt UInt32 := do
  match command with
  | .newLibrary =>
    let name ← payloadText envelope
    let library ← ExceptT.mk (pure (host.catalog.find name))
    let id ← (Activity.register library : Activity UInt32)
    Activity.report (.libraryRegistered (← (get : Activity Context)).id name id)
    return id
  | .log => logPayload envelope .info
  | .logError => logPayload envelope .error
  | .tlsSize =>
    let exported ← (host.exportedWord? Wasm.Abi.tlsSize : Activity (Option UInt32))
    return (host.config.tlsSize.or exported).getD 0
  | .tlsAlign =>
    let exported ← (host.exportedWord? Wasm.Abi.tlsAlign : Activity (Option UInt32))
    return (host.config.tlsAlign.or exported).getD 0
  | .availableThreads => return host.availableThreads
  | .spawnWorker =>
    let bytes ← payload envelope
    let launch ← ExceptT.mk (pure (Wire.Launch.decode bytes))
    let _ ← host.spawn launch
    return 0
  | .reserved =>
    Activity.report (.reservedCommand (← (get : Activity Context)).id)
    return 0
  | .getProperty =>
    let bytes ← payload envelope
    let (object, property) ← ExceptT.mk (pure (Wire.decodeTwo bytes "property lookup"))
    match ← Attempt.lookup property with
    | .string name => host.serve again Wire.controlLibrary (Objects.readProperty object name)
    | key => throw (.typeMismatch property "string" key.kind)

/-- Route a message and answer with what the guest should see. -/
def route (host : Host) (again : Reentry) (envelope : Wire.Envelope) : Attempt UInt32 := do
  if envelope.isControl then
    let command ← ExceptT.mk (pure (Wire.ControlCommand.ofWord envelope.command))
    host.control again command envelope
  else
    let context ← (get : Activity Context)
    let library ← ExceptT.mk (pure (context.libraries.resolve envelope.library))
    let bytes ← payload envelope
    host.serve again envelope.library (library.serve envelope.command bytes)

end Host

namespace Reentry

/-- Deliver a message of the guest: a fault is reported, and the answer is 0. -/
def deliver (again : Reentry) (envelope : Wire.Envelope) : Activity UInt32 := do
  match ← again.route envelope with
  | .ok answer => return answer
  | .error fault =>
    Activity.report
      (.messageFailed (← get).id envelope.library envelope.command fault)
    return 0

end Reentry

end WasmBridge
