import WasmBridge.Config.Basic
import WasmBridge.Memory.Linear
import WasmBridge.Text.Outline
import WasmBridge.Wasm.Module

/-!
# Memory plans

Where the memory of a module comes from is decided once for all contexts.  The
first memory that the module imports is created by the host, shared by all
contexts or one for each; a module that imports none brings its own or does
without.
-/

namespace WasmBridge

/-- A memory that the host creates, its sizes in pages, and the import it is for. -/
structure PlannedMemory where
  origin : String
  name : String
  minimum : Nat
  maximum : Nat
deriving DecidableEq

/-- Where the memory of a module comes from. -/
inductive MemoryPlan where
  /-- One memory for all contexts. -/
  | shared (planned : PlannedMemory)
  /-- A memory for each context. -/
  | separate (planned : PlannedMemory)
  /-- The module brings its own memory, if any. -/
  | exported
deriving DecidableEq

/-- The memory of a plan before anything is written to it. -/
def PlannedMemory.create (planned : PlannedMemory) : LinearMemory :=
  { pages := planned.minimum, limit := planned.maximum }

namespace MemoryPlan

/-- The greatest size of the memory for an import: its own maximum or, failing
that, the configured one. -/
def maximum (config : Configuration) (type : Wasm.MemoryType) : Nat :=
  min (type.maximum.getD config.maximumPages.toNat) (UInt32.size - 1)

/-- The initial size of the memory for an import: its minimum or the configured
initial size, whichever is larger, but never above the greatest size. -/
def minimum (config : Configuration) (type : Wasm.MemoryType) : Nat :=
  min (max (type.minimum % UInt32.size) config.initialPages.toNat) (maximum config type)

/-- The memory for an import. -/
def planned (config : Configuration) (item : Wasm.Import) (type : Wasm.MemoryType) :
    PlannedMemory :=
  ⟨item.origin, item.name, minimum config type, maximum config type⟩

/-- The plan for a module. -/
def forModule (config : Configuration) (module : Wasm.Module) : Except Fault MemoryPlan :=
  match module.importedMemories.head? with
  | none => .ok .exported
  | some (item, type) =>
    if type.wide then
      .error (.instantiationFailure 0 "64-bit linear memory is not supported")
    else if ¬ type.shared then .ok (.separate (planned config item type))
    else if config.threads then .ok (.shared (planned config item type))
    else
      .error (.threadsUnavailable "module imports shared memory but threads are disabled")

/-- Whether all contexts work on one memory. -/
def isShared : MemoryPlan → Bool
  | shared _ => true
  | _ => false

/-- The plan in diagnostics; `bytes` is the size of the shared memory. -/
def describe (bytes : Nat) : MemoryPlan → String
  | shared planned => Text.Outline.record "Shared" [
    ("import", s!"{planned.origin}.{planned.name}"),
    ("bytes", toString bytes)]
  | separate planned => Text.Outline.record "Local" [
    ("import", s!"{planned.origin}.{planned.name}"),
    ("pages", s!"{planned.minimum} to {planned.maximum}")]
  | exported => "Exported"

/-- A planned memory never starts above its greatest size. -/
theorem minimum_le_maximum (config : Configuration) (type : Wasm.MemoryType) :
    minimum config type ≤ maximum config type :=
  Nat.min_le_right _ _

end MemoryPlan

end WasmBridge
