import WasmBridge.Handle.Table
import WasmBridge.Library.Registry
import WasmBridge.Log.Event
import WasmBridge.Memory.Bridge
import WasmBridge.Memory.Plan
import WasmBridge.Thread
import WasmBridge.Value.Text
import WasmBridge.Wasm.Abi
import WasmBridge.Wasm.Compiler
import WasmBridge.Worker.Pool

/-!
# Contexts

A host runs a guest in contexts: main contexts, numbered 0, and workers.  A
context has handles, libraries, globals and perhaps a memory of its own.  What
all contexts of a host work on is shared: the heap of host objects, the memory
that the module imports as shared, and the pool of workers.  What a context does
is an activity on both.
-/

namespace WasmBridge

/-- What is settled about a host when it is built. -/
structure Host where
  config : Configuration
  compiled : Wasm.Compiled
  catalog : Catalog
  /-- The global object, which every context has at handle 1. -/
  globalObject : ObjectId
  plan : MemoryPlan
  /-- How many threads the machine runs at a time. -/
  machineThreads : UInt32

/-- The module of a host. -/
def Host.module (host : Host) : Wasm.Module :=
  host.compiled.module

/-- What the contexts of a host share. -/
structure Shared where
  heap : Heap := {}
  functions : Functions := #[]
  /-- The memory of a plan for all contexts. -/
  memory : LinearMemory := { pages := 0, limit := 0 }
  pool : Pool := {}
  /-- What was reported, by the number of the context that reported it. -/
  log : Array (UInt32 × Log.Event) := #[]
  /-- What libraries noted. -/
  journal : Array Json := #[]

/-- Where the memory of an instance is. -/
inductive MemoryHome where
  | absent
  /-- The memory that all contexts share. -/
  | shared
  | own (memory : LinearMemory)

/-- The number of main contexts. -/
def mainContext : UInt32 := 0

/-- A context. -/
structure Context where
  id : UInt32
  objects : HandleTable HostValue
  libraries : Registry := {}
  /-- The memory that the code of the guest works on. -/
  home : MemoryHome := .absent
  /-- The bridge, once it is bound. -/
  bridge : Option Bridge := none
  /-- The globals of the instance and what they are set to. -/
  globals : List (Wasm.Global × Wasm.Value) := []

/-- A context before its module is instantiated. -/
def Context.new (host : Host) (id : UInt32) : Context :=
  { id, objects := HandleTable.new .null (.object host.globalObject) }

/-- What a global is set to. -/
def Context.global? (context : Context) (designator : Wasm.Designator) : Option Wasm.Value :=
  (context.globals.find? fun (global, _) =>
    designator.admits global.name global.exported).map Prod.snd

/-- The globals with another value for the one that is meant. -/
def replaceGlobal (designator : Wasm.Designator) (value : Wasm.Value) :
    List (Wasm.Global × Wasm.Value) → List (Wasm.Global × Wasm.Value)
  | [] => []
  | (global, old) :: rest =>
    if designator.admits global.name global.exported then (global, value) :: rest
    else (global, old) :: replaceGlobal designator value rest

/-- The context with a global set to another value. -/
def Context.setGlobal (context : Context) (designator : Wasm.Designator) (value : Wasm.Value) :
    Context :=
  { context with globals := replaceGlobal designator value context.globals }

/-- What a context does. -/
abbrev Activity := StateT Context (Action Shared)

namespace Activity

/-- The shared state. -/
def shared : Activity Shared := fun context => do
  let shared ← (get : Action Shared Shared)
  return (shared, context)

/-- Change the shared state and answer. -/
def changeShared {α : Type} (change : Shared → α × Shared) : Activity α := fun context => do
  let value ← (modifyGet change : Action Shared α)
  return (value, context)

/-- Wait until the shared state meets a condition. -/
def waitUntil (ready : Shared → Bool) : Activity Unit := fun context => do
  Action.waitUntil ready
  return ((), context)

/-- Report an event. -/
def report (event : Log.Event) : Activity Unit := fun context => do
  modify (fun shared => { shared with log := shared.log.push (context.id, event) } :
    Shared → Shared)
  return ((), context)

/-- The heap of host objects. -/
def heap : Activity Heap :=
  return (← shared).heap

/-- The memory of the instance. -/
def memory? : Activity (Option LinearMemory) := do
  match (← get).home with
  | .absent => return none
  | .shared => return some (← shared).memory
  | .own memory => return some memory

/-- Put a changed memory in the place of the instance's. -/
def setMemory (memory : LinearMemory) : Activity Unit := do
  match (← get).home with
  | .absent => return ()
  | .shared => changeShared fun shared => ((), { shared with memory })
  | .own _ => modify fun context => { context with home := .own memory }

end Activity

/-- An activity that may end in a fault. -/
abbrev Attempt := ExceptT Fault Activity

namespace Attempt

/-- The memory that the bridge of the context leads to. -/
def bridged : Attempt (Bridge × LinearMemory) := do
  let context ← (get : Activity Context)
  match context.bridge, ← Activity.memory? with
  | some bridge, some memory => return (bridge, memory)
  | _, _ => throw (.memoryUnavailable context.id)

/-- The size of the memory in bytes. -/
def memorySize : Attempt Nat := do
  let (_, memory) ← bridged
  return memory.size

/-- Copy a stretch out of the memory. -/
def view (offset length : UInt32) : Attempt Bytes := do
  let (bridge, memory) ← bridged
  ExceptT.mk (pure (bridge.view memory offset length))

/-- Copy bytes into the memory. -/
def write (offset : UInt32) (bytes : Bytes) : Attempt Unit := do
  let (bridge, memory) ← bridged
  match bridge.write memory offset bytes with
  | .ok memory => Activity.setMemory memory
  | .error fault => throw fault

/-- Read a stretch of the memory as text. -/
def readText (offset length : UInt32) : Attempt String := do
  let (bridge, memory) ← bridged
  ExceptT.mk (pure (bridge.readText memory offset length))

/-- The value of a handle of the context. -/
def lookup (handle : Handle) : Attempt HostValue := do
  let context ← (get : Activity Context)
  ExceptT.mk (pure (context.objects.get handle))

/-- A new handle of the context for a value. -/
def insert (value : HostValue) : Attempt Handle := do
  let context ← (get : Activity Context)
  match context.objects.insert value with
  | .ok (handle, objects) =>
    (set { context with objects } : Activity Unit)
    return handle
  | .error fault => throw fault

end Attempt

/-- End a handle of the context. -/
def Activity.release (handle : Handle) : Activity (Option HostValue) := do
  let context ← get
  let (value, objects) := context.objects.release handle
  set { context with objects }
  return value

/-- Register a library in the context. -/
def Activity.register (library : Library) : Activity UInt32 := do
  let context ← get
  let (id, libraries) := context.libraries.register library
  set { context with libraries }
  return id

end WasmBridge
