import WasmBridge.Memory.Linear
import WasmBridge.Wasm.Module

/-!
# Valid modules

The conditions a module meets before it can be instantiated: no two exports of
one name, and memories whose sizes a host can provide.
-/

namespace WasmBridge.Wasm

/-- The greatest number of pages of a 32-bit memory. -/
def greatestPages : Nat := 65536

/-- Why a module is not valid. -/
inductive Invalid where
  | malformed
  | duplicateExport (name : String)
  | sharedWithoutMaximum
  | sizeOutOfRange
  | wideMemory
  | threadsDisabled
deriving DecidableEq

/-- The wording of a refused module. -/
def Invalid.message : Invalid → String
  | malformed => "not a module"
  | duplicateExport name => s!"duplicate export name '{name}'"
  | sharedWithoutMaximum => "shared memory must have a maximum size"
  | sizeOutOfRange => "memory size out of range"
  | wideMemory => "64-bit memory is not enabled"
  | threadsDisabled => "shared memory needs threads"

/-- Why a memory cannot be provided. -/
def MemoryType.invalid? (threads : Bool) (type : MemoryType) : Option Invalid :=
  if type.wide then some .wideMemory
  else if type.shared ∧ ¬ threads then some .threadsDisabled
  else if type.shared ∧ type.maximum.isNone then some .sharedWithoutMaximum
  else if greatestPages < type.minimum ∨ greatestPages < type.maximum.getD 0
      ∨ type.maximum.any (· < type.minimum) then some .sizeOutOfRange
  else none

/-- The first name that occurs again later in a list. -/
def repeated? : List String → Option String
  | [] => none
  | name :: rest => if rest.contains name then some name else repeated? rest

/-- Why a module is not valid; `threads` says whether memory may be shared. -/
def Module.invalid? (threads : Bool) (module : Module) : Option Invalid :=
  (module.memoryTypes.findSome? (MemoryType.invalid? threads)).or
    ((repeated? (module.exports.map Export.name)).map .duplicateExport)

/-- A memory that is shared needs threads. -/
theorem MemoryType.invalid?_shared {type : MemoryType} (shared : type.shared = true)
    (narrow : type.wide = false) : type.invalid? false = some .threadsDisabled := by
  simp [invalid?, shared, narrow]

end WasmBridge.Wasm
