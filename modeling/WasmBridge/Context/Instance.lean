import WasmBridge.Context.Linking
import WasmBridge.Guest.Code

/-!
# Instances

To instantiate a module its imports are bound, its memory and globals are set up,
its bytes are put into the memory, and its start function runs.  Until then no
bridge is bound, so messages of the start function find no memory.
-/

namespace WasmBridge

/-- The globals of a new instance. -/
def Wasm.Module.initialGlobals (module : Wasm.Module) : List (Wasm.Global × Wasm.Value) :=
  module.globals.map fun global =>
    (global, if global.type.type = .i32 then .word global.value else .initial global.type.type)

/-- The memory of a module's own in a new instance. -/
def Wasm.MemoryType.create (type : Wasm.MemoryType) : LinearMemory :=
  { pages := type.minimum, limit := type.maximum.getD Wasm.greatestPages }

namespace Host

/-- Where the memory of a new instance is. -/
def home (host : Host) : MemoryHome :=
  match host.plan, host.module.memory with
  | .shared _, _ => .shared
  | .separate planned, _ => .own planned.create
  | .exported, some memory => .own memory.type.create
  | .exported, none => .absent

/-- The bridge of an instance, if the memory it works on is known to the host:
planned memory is, and so is memory that is exported under the agreed name. -/
def bridge? (host : Host) : Option Bridge :=
  let canReserve := host.module.exportsFunction Wasm.Abi.reserveSpace Wasm.Abi.reserveSpaceType
  match host.plan with
  | .shared _ => some ⟨true, canReserve⟩
  | .separate _ => some ⟨false, canReserve⟩
  | .exported =>
    match host.module.memory with
    | some memory =>
      if memory.exported = some Wasm.Abi.memory then some ⟨memory.type.shared, canReserve⟩
      else none
    | none => none

/-- A fault of the instance. -/
def instantiationFault (id : UInt32) (cause : String) : Fault :=
  .instantiationFailure id cause

/-- The definitions for the imports of the module. -/
def linker (host : Host) (stubs : Bool) : Attempt Linker := do
  let shared ← (Activity.shared : Activity Shared)
  let pages := match host.plan with
    | .shared _ => shared.memory.pages
    | .separate planned => planned.minimum
    | .exported => 0
  ExceptT.mk (pure (Linker.forModule host.module host.plan pages stubs))

/-- Put the bytes of the module into the memory, segment by segment, up to the
first that does not fit. -/
def putSegments : List Wasm.Segment → Attempt Unit
  | [] => return ()
  | segment :: rest => do
    let id := (← (get : Activity Context)).id
    match ← (Activity.memory? : Activity (Option LinearMemory)) with
    | some memory =>
      if memory.fits segment.address segment.bytes.length then
        (Activity.setMemory (memory.put segment.address segment.bytes) : Activity Unit)
        putSegments rest
      else throw (instantiationFault id Guest.Trap.outOfBounds.text)
    | none => throw (instantiationFault id Guest.Trap.outOfBounds.text)

/-- Run the start function of the module, if it has one. -/
def runStart (host : Host) (again : Reentry) : Attempt Unit := do
  match host.module.start with
  | none => return ()
  | some name =>
    match ← again.call (.own name) [] with
    | .ok _ => return ()
    | .error trap => throw (instantiationFault (← (get : Activity Context)).id trap.text)

/-- Instantiate the module in the context. -/
def instantiate (host : Host) (again : Reentry) (stubs : Bool) : Attempt Unit := do
  let id := (← (get : Activity Context)).id
  let linker ← host.linker stubs
  match linker.unbound? host.module with
  | some item =>
    throw (instantiationFault id s!"unknown or incompatible import {item.qualified}")
  | none =>
    (modify fun context =>
      { context with home := host.home, globals := host.module.initialGlobals } : Activity Unit)
    putSegments host.module.segments
    host.runStart again

/-- Bind the bridge of the instance. -/
def bindBridge (bridge : Bridge) : Activity Unit :=
  modify fun context => { context with bridge := some bridge }

end Host

end WasmBridge
