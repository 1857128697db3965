/-!
# Types of the guest

The types of what a module imports, defines and exports.
-/

namespace WasmBridge.Wasm

/-- The type of a value. -/
inductive ValueType where
  | i32
  | i64
  | f32
  | f64
  | v128
  | externref
  | funcref
deriving DecidableEq

namespace ValueType

/-- Every type. -/
def all : List ValueType := [i32, i64, f32, f64, v128, externref, funcref]

/-- The name of a type in a description. -/
def name : ValueType → String
  | i32 => "i32"
  | i64 => "i64"
  | f32 => "f32"
  | f64 => "f64"
  | v128 => "v128"
  | externref => "externref"
  | funcref => "funcref"

/-- The type of a name. -/
def ofName? (text : String) : Option ValueType :=
  all.find? fun type => type.name == text

/-- A type in diagnostics. -/
def describe : ValueType → String
  | externref => "(ref null extern)"
  | funcref => "(ref null func)"
  | type => type.name

/-- Whether the values of the type are references. -/
def isReference : ValueType → Bool
  | externref | funcref => true
  | _ => false

/-- The name of a type determines it. -/
theorem ofName?_name (type : ValueType) : ofName? type.name = some type := by
  cases type <;> decide

end ValueType

/-- A value of a guest.  Only words are computed with; a value of another type is
the zero or the null reference of its type. -/
inductive Value where
  | word (value : UInt32)
  | zero (type : ValueType)
deriving DecidableEq

namespace Value

/-- The zero, or the null reference, of a type. -/
def initial : ValueType → Value
  | .i32 => .word 0
  | type => .zero type

/-- The type of a value. -/
def type : Value → ValueType
  | .word _ => .i32
  | .zero type => type

/-- The word of a value, 0 for a value of another type. -/
def toWord : Value → UInt32
  | .word value => value
  | .zero _ => 0

/-- The value of a type that a stub may answer with: its zero, but no reference. -/
def default? (type : ValueType) : Option Value :=
  if type.isReference then none else some (initial type)

/-- The initial value of a type has that type. -/
theorem type_initial (valueType : ValueType) : (initial valueType).type = valueType := by
  cases valueType <;> rfl

end Value

/-- The type of a function. -/
structure FunctionType where
  parameters : List ValueType := []
  results : List ValueType := []
deriving DecidableEq

/-- The type of a memory, its sizes in pages. -/
structure MemoryType where
  minimum : Nat
  maximum : Option Nat := none
  shared : Bool := false
  /-- Whether addresses have 64 bits. -/
  wide : Bool := false
deriving DecidableEq

/-- The type of a global. -/
structure GlobalType where
  type : ValueType
  mutable : Bool := false
deriving DecidableEq

/-- The type of what a module imports or exports. -/
inductive ExternType where
  | function (type : FunctionType)
  | memory (type : MemoryType)
  | global (type : GlobalType)
  | table (minimum : Nat)
deriving DecidableEq

/-- The kind of an import or export in reports. -/
def ExternType.kind : ExternType → String
  | .function _ => "func"
  | .memory _ => "memory"
  | .global _ => "global"
  | .table _ => "table"

end WasmBridge.Wasm
