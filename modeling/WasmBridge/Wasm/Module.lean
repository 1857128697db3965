import WasmBridge.Fault
import WasmBridge.Wasm.Type

/-!
# Guest modules

A module imports from its host, defines memory, tables, globals and functions,
and exports what it defines by name.  The code of a function computes with
words: it reads parameters and globals, loads and stores words, grows the
memory, sends messages to the host, and calls other functions.
-/

namespace WasmBridge.Wasm

/-- What an instruction computes its word from. -/
inductive Expr where
  | word (value : UInt32)
  | parameter (index : Nat)
  | global (name : String)
  /-- The word at an address. -/
  | load (address : Expr)
  | add (left right : Expr)
  /-- The size in pages before the memory grew, or the greatest word if it did not. -/
  | grow (pages : Expr)
  /-- The answer of the host to a message. -/
  | send (library command pointer length : Expr)
  /-- The first result of a function. -/
  | call (target : String) (args : List Expr)
  /-- The first result of an import called with zeros. -/
  | probe (target : String)

/-- An instruction. -/
inductive Statement where
  /-- Put a word at an address. -/
  | store (address value : Expr)
  | setGlobal (name : String) (value : Expr)
  /-- Compute a word and forget it. -/
  | compute (value : Expr)
  /-- Call a function and forget its results. -/
  | run (target : String) (args : List Expr)
  | trap
  /-- Go through a block unless a word is 0. -/
  | when (condition : Expr) (block : List Statement)
  /-- Wait until the word at an address is not 0. -/
  | wait (address : Expr)

/-- A function of a module. -/
structure Function where
  name : String
  exported : Bool := true
  type : FunctionType := {}
  body : List Statement := []
  /-- What the results are computed from; a result that is left out is zero. -/
  answers : List Expr := []

/-- A global of a module. -/
structure Global where
  name : String
  exported : Bool := true
  type : GlobalType
  /-- The initial word of a global of words. -/
  value : UInt32 := 0

/-- A table of a module. -/
structure Table where
  name : String
  exported : Bool := true
  minimum : Nat := 0

/-- A memory of a module, and the name it is exported under if it is. -/
structure Memory where
  type : MemoryType
  exported : Option String := none

/-- Bytes that are put into the memory of every instance. -/
structure Segment where
  address : Nat
  bytes : Bytes

/-- What a module imports. -/
structure Import where
  origin : String
  name : String
  type : ExternType

/-- The name of an import with the name of what it is imported from. -/
def Import.qualified (item : Import) : String :=
  s!"{item.origin}.{item.name}"

/-- What a module exports. -/
structure Export where
  name : String
  type : ExternType

/-- A module. -/
structure Module where
  imports : List Import := []
  memory : Option Memory := none
  tables : List Table := []
  globals : List Global := []
  functions : List Function := []
  segments : List Segment := []
  /-- The function that every instance runs first. -/
  start : Option String := none

/-- How a function or a global of a module is found: by the code of the module,
among all there are, or from outside, among those that are exported.  Of several
that have the name the first one is meant. -/
inductive Designator where
  | own (name : String)
  | exported (name : String)
deriving DecidableEq

namespace Designator

/-- The name that is looked for. -/
def name : Designator → String
  | own name | exported name => name

/-- Whether something of a name, exported or not, may be meant. -/
def admits (designator : Designator) (name : String) (isExported : Bool) : Bool :=
  match designator with
  | own wanted => name == wanted
  | exported wanted => isExported && name == wanted

end Designator

namespace Module

/-- What a module exports, in order. -/
def exports (module : Module) : List Export :=
  (module.memory.toList.filterMap fun memory =>
    memory.exported.map fun name => ⟨name, .memory memory.type⟩)
  ++ (module.tables.filter (·.exported)).map (fun table => ⟨table.name, .table table.minimum⟩)
  ++ (module.globals.filter (·.exported)).map (fun global => ⟨global.name, .global global.type⟩)
  ++ (module.functions.filter (·.exported)).map fun function =>
    ⟨function.name, .function function.type⟩

/-- The type of an export. -/
def export? (module : Module) (name : String) : Option ExternType :=
  (module.exports.find? (·.name == name)).map Export.type

/-- The type of an exported function. -/
def exportedFunction? (module : Module) (name : String) : Option FunctionType :=
  match module.export? name with
  | some (.function type) => some type
  | _ => none

/-- Whether a function of exactly this type is exported. -/
def exportsFunction (module : Module) (name : String) (type : FunctionType) : Bool :=
  module.exportedFunction? name == some type

/-- The type of an exported global. -/
def exportedGlobal? (module : Module) (name : String) : Option GlobalType :=
  match module.export? name with
  | some (.global type) => some type
  | _ => none

/-- The memories that are imported, in order. -/
def importedMemories (module : Module) : List (Import × MemoryType) :=
  module.imports.filterMap fun item =>
    match item.type with
    | .memory type => some (item, type)
    | _ => none

/-- The types of all memories, the imported ones first. -/
def memoryTypes (module : Module) : List MemoryType :=
  module.importedMemories.map Prod.snd ++ module.memory.toList.map Memory.type

/-- The function that is meant. -/
def function? (module : Module) (designator : Designator) : Option Function :=
  module.functions.find? fun function => designator.admits function.name function.exported

end Module

end WasmBridge.Wasm
