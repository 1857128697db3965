import WasmBridge.Json.Parser
import WasmBridge.Wasm.Module

/-!
# Module descriptions

A module is described by a JSON object whose fields are the parts of the module;
a part that is left out is empty.  `Module.ofJson?` reads a description.
-/

namespace WasmBridge.Wasm

/-- A natural number. -/
def natOf? : Json → Option Nat
  | .integer value => if 0 ≤ value then some value.toNat else none
  | _ => none

/-- A word; a negative number stands for its two's complement. -/
def wordOf? : Json → Option UInt32
  | .integer value => some (UInt32.ofNat (value % UInt32.size).toNat)
  | _ => none

/-- A text. -/
def textOf? : Json → Option String
  | .string text => some text
  | _ => none

/-- A truth value. -/
def boolOf? : Json → Option Bool
  | .bool value => some value
  | _ => none

/-- The items of an array, each read by `read`. -/
def listOf? {α : Type} (read : Json → Option α) : Json → Option (List α)
  | .array items => items.mapM read
  | _ => none

/-- A field read by `read`, or `missing` when it is left out or null. -/
def fieldOr? {α : Type} (json : Json) (name : String) (read : Json → Option α) (missing : α) :
    Option α :=
  match json.field? name with
  | none => some missing
  | some .null => some missing
  | some value => read value

/-- A field that may not be left out. -/
def field? {α : Type} (json : Json) (name : String) (read : Json → Option α) : Option α :=
  (json.field? name).bind read

/-- The bytes written by pairs of hexadecimal digits. -/
def hexBytes? : List Char → Option Bytes
  | [] => some []
  | high :: low :: rest => do
    let high ← Text.hexValue? high
    let low ← Text.hexValue? low
    return UInt8.ofNat (16 * high + low) :: (← hexBytes? rest)
  | _ => none

/-- A type of a value. -/
def valueTypeOf? (json : Json) : Option ValueType :=
  (textOf? json).bind ValueType.ofName?

/-- A type of a function. -/
def functionTypeOf? (json : Json) : Option FunctionType := do
  let parameters ← fieldOr? json "params" (listOf? valueTypeOf?) []
  let results ← fieldOr? json "results" (listOf? valueTypeOf?) []
  return ⟨parameters, results⟩

/-- A type of a memory. -/
def memoryTypeOf? (json : Json) : Option MemoryType := do
  let minimum ← fieldOr? json "min" natOf? 0
  let maximum ← fieldOr? json "max" (fun value => (natOf? value).map some) none
  let shared ← fieldOr? json "shared" boolOf? false
  let wide ← fieldOr? json "m64" boolOf? false
  return ⟨minimum, maximum, shared, wide⟩

/-- A type of a global. -/
def globalTypeOf? (json : Json) : Option GlobalType := do
  let type ← field? json "type" valueTypeOf?
  let mutable ← fieldOr? json "mut" boolOf? false
  return ⟨type, mutable⟩

/-- An import. -/
def importOf? (json : Json) : Option Import := do
  let origin ← field? json "module" textOf?
  let name ← field? json "name" textOf?
  let kind ← field? json "kind" textOf?
  match kind with
  | "func" => return ⟨origin, name, .function (← functionTypeOf? json)⟩
  | "memory" => return ⟨origin, name, .memory (← memoryTypeOf? json)⟩
  | "global" => return ⟨origin, name, .global (← globalTypeOf? json)⟩
  | "table" => return ⟨origin, name, .table (← fieldOr? json "min" natOf? 0)⟩
  | _ => none

mutual

/-- An expression: a number, or an object of one field. -/
def exprOf? : Json → Option Expr
  | .object [("p", .integer index)] => some (.parameter index.toNat)
  | .object [("g", .string name)] => some (.global name)
  | .object [("ld", address)] => return .load (← exprOf? address)
  | .object [("add", .array [left, right])] => return .add (← exprOf? left) (← exprOf? right)
  | .object [("grow", pages)] => return .grow (← exprOf? pages)
  | .object [("send", .array [library, command, pointer, length])] =>
    return .send (← exprOf? library) (← exprOf? command) (← exprOf? pointer) (← exprOf? length)
  | .object [("call", .array (.string target :: args))] => return .call target (← exprsOf? args)
  | .object [("probe", .string target)] => some (.probe target)
  | json => (wordOf? json).map .word

/-- A list of expressions. -/
def exprsOf? : List Json → Option (List Expr)
  | [] => some []
  | json :: rest => return (← exprOf? json) :: (← exprsOf? rest)

end

mutual

/-- An instruction: an object of one field. -/
def statementOf? : Json → Option Statement
  | .object [("st", .array [address, value])] =>
    return .store (← exprOf? address) (← exprOf? value)
  | .object [("setg", .array [.string name, value])] => return .setGlobal name (← exprOf? value)
  | .object [("do", value)] => return .compute (← exprOf? value)
  | .object [("run", .array (.string target :: args))] => return .run target (← exprsOf? args)
  | .object [("trap", _)] => some .trap
  | .object [("if", .array [condition, .array block])] =>
    return .when (← exprOf? condition) (← blockOf? block)
  | .object [("wait", address)] => return .wait (← exprOf? address)
  | _ => none

/-- A list of instructions. -/
def blockOf? : List Json → Option (List Statement)
  | [] => some []
  | json :: rest => return (← statementOf? json) :: (← blockOf? rest)

end

/-- A function. -/
def functionOf? (json : Json) : Option Function := do
  let name ← field? json "name" textOf?
  let exported ← fieldOr? json "export" boolOf? true
  let type ← functionTypeOf? json
  let body ← fieldOr? json "body" (listOf? statementOf?) []
  let answers ← fieldOr? json "ret" (listOf? exprOf?) []
  return ⟨name, exported, type, body, answers⟩

/-- The initial word of a global of a type.  What another global than one of words
begins with makes no difference to anyone. -/
def initialOf? (type : ValueType) (json : Json) : Option UInt32 :=
  if type = .i32 then wordOf? json else some 0

/-- A global. -/
def globalOf? (json : Json) : Option Global := do
  let name ← field? json "name" textOf?
  let exported ← fieldOr? json "export" boolOf? true
  let type ← globalTypeOf? json
  let value ← fieldOr? json "value" (initialOf? type.type) 0
  return ⟨name, exported, type, value⟩

/-- A table. -/
def tableOf? (json : Json) : Option Table := do
  let name ← field? json "name" textOf?
  let exported ← fieldOr? json "export" boolOf? true
  let minimum ← fieldOr? json "min" natOf? 0
  return ⟨name, exported, minimum⟩

/-- A memory of the module's own. -/
def memoryOf? (json : Json) : Option Memory := do
  let type ← memoryTypeOf? json
  let exported ← fieldOr? json "export" (fun name => (textOf? name).map some) none
  return ⟨type, exported⟩

/-- Bytes for the memory. -/
def segmentOf? (json : Json) : Option Segment := do
  let address ← field? json "at" natOf?
  let hex ← field? json "hex" textOf?
  let bytes ← hexBytes? hex.toList
  return ⟨address, bytes⟩

/-- Read a description. -/
def Module.ofJson? (json : Json) : Option Module := do
  let .object _ := json | none
  let imports ← fieldOr? json "imports" (listOf? importOf?) []
  let memory ← fieldOr? json "memory" (fun value => (memoryOf? value).map some) none
  let tables ← fieldOr? json "tables" (listOf? tableOf?) []
  let globals ← fieldOr? json "globals" (listOf? globalOf?) []
  let functions ← fieldOr? json "funcs" (listOf? functionOf?) []
  let segments ← fieldOr? json "data" (listOf? segmentOf?) []
  let start ← fieldOr? json "start" (fun name => (textOf? name).map some) none
  return { imports, memory, tables, globals, functions, segments, start }

end WasmBridge.Wasm
