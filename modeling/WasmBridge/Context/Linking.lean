import WasmBridge.Memory.Plan
import WasmBridge.Wasm.Abi

/-!
# Linking

Before a module is instantiated its imports are looked up among definitions: the
function that delivers messages, the planned memory, and, where they are wanted,
stubs for the functions that nobody provides.  A stub takes the type under which
its name is imported first.  Imports that are no functions have no stubs.
-/

namespace WasmBridge

/-- What an import can be bound to. -/
inductive Definition where
  /-- The function that delivers messages to the host. -/
  | deliver
  /-- The planned memory: its size now, its greatest size, and whether it is shared. -/
  | memory (pages limit : Nat) (shared : Bool)
  /-- A function that stands in for one that nobody provides. -/
  | stub (type : Wasm.FunctionType)
deriving DecidableEq

/-- Whether a memory of some size may be bound to an import: it is large enough,
it does not grow beyond the import's maximum, and both are shared or neither. -/
def Wasm.MemoryType.admits (type : Wasm.MemoryType) (pages limit : Nat) (shared : Bool) : Bool :=
  !type.wide && type.shared == shared && decide (type.minimum ≤ pages) &&
    match type.maximum with
    | some maximum => decide (limit ≤ maximum)
    | none => true

/-- Whether a definition has the type that an import declares. -/
def Definition.satisfies (type : Wasm.ExternType) : Definition → Bool
  | deliver => type == .function Wasm.Abi.deliverType
  | stub own => type == .function own
  | memory pages limit shared =>
    match type with
    | .memory type => type.admits pages limit shared
    | _ => false

/-- Definitions by what they are imported from and their name. -/
structure Linker where
  definitions : List ((String × String) × Definition) := []

namespace Linker

/-- The definition of an import. -/
def find? (linker : Linker) (origin name : String) : Option Definition :=
  linker.definitions.lookup (origin, name)

/-- Add a definition, refusing a second one of the same name. -/
def define (linker : Linker) (origin name : String) (definition : Definition) :
    Except Fault Linker :=
  match linker.find? origin name with
  | some _ =>
    .error (.engine s!"failed to define {origin}.{name}: import of that name defined twice")
  | none => .ok ⟨((origin, name), definition) :: linker.definitions⟩

/-- The function that delivers messages, and nothing else. -/
def standard : Linker :=
  ⟨[((Wasm.Abi.bridgeOrigin, Wasm.Abi.deliver), .deliver)]⟩

/-- Add a stub for a function that is not defined yet; other imports are left
alone. -/
def stub (linker : Linker) (item : Wasm.Import) : Linker :=
  match linker.find? item.origin item.name, item.type with
  | none, .function type => ⟨((item.origin, item.name), .stub type) :: linker.definitions⟩
  | _, _ => linker

/-- Add the planned memory, which has `pages` pages now. -/
def withMemory (linker : Linker) (plan : MemoryPlan) (pages : Nat) : Except Fault Linker :=
  match plan with
  | .shared planned =>
    linker.define planned.origin planned.name (.memory pages planned.maximum true)
  | .separate planned =>
    linker.define planned.origin planned.name (.memory pages planned.maximum false)
  | .exported => .ok linker

/-- The definitions for a module: the delivering function, the planned memory and,
if `stubs` says so, stubs for the other functions it imports. -/
def forModule (module : Wasm.Module) (plan : MemoryPlan) (pages : Nat) (stubs : Bool) :
    Except Fault Linker := do
  let linker ← standard.withMemory plan pages
  return if stubs then module.imports.foldl stub linker else linker

/-- Whether an import is bound to something of the type it declares. -/
def binds (linker : Linker) (item : Wasm.Import) : Bool :=
  (linker.find? item.origin item.name).any (Definition.satisfies item.type)

/-- The first import that is not bound. -/
def unbound? (linker : Linker) (module : Wasm.Module) : Option Wasm.Import :=
  module.imports.find? fun item => !linker.binds item

/-- What was defined is found. -/
theorem find?_of_define {linker next : Linker} {origin name : String} {definition : Definition}
    (h : linker.define origin name definition = .ok next) :
    next.find? origin name = some definition := by
  unfold define at h
  split at h
  · cases h
  · cases h
    simp [find?]

end Linker

end WasmBridge
