import WasmBridge.Decimal.Numeral
import WasmBridge.Fields
import WasmBridge.Text.Blank
import WasmBridge.Text.Utf8

/-!
# Host values and the objects they refer to

A host value is a scalar, a text, a run of bytes, or a reference to an object or
a function.  The objects live in a heap and are shared: two values that refer to
the same object see the same properties.  Functions are numbered in the order
they were made; calling one may change the heap and may give up with a message.
-/

namespace WasmBridge

/-- The place of an object in the heap. -/
abbrev ObjectId := Nat

/-- The number of a function. -/
abbrev FunctionId := Nat

/-- A value of the host. -/
inductive HostValue where
  | null
  | bool (value : Bool)
  | number (value : Float)
  | string (text : String)
  | bytes (value : Bytes)
  | object (id : ObjectId)
  | function (id : FunctionId)
deriving Inhabited

namespace HostValue

/-- What sort of value it is. -/
def kind : HostValue → String
  | null => "null"
  | bool _ => "bool"
  | number _ => "number"
  | string _ => "string"
  | bytes _ => "bytes"
  | object _ => "object"
  | function _ => "function"

/-- Whether it is the null value. -/
def isNull : HostValue → Bool
  | null => true
  | _ => false

/-- The text of a string. -/
def asString? : HostValue → Option String
  | string text => some text
  | _ => none

/-- The object referred to. -/
def asObject? : HostValue → Option ObjectId
  | object id => some id
  | _ => none

/-- The value as a number: a number itself, a truth value as 0 or 1, and a
string that holds a numeral between blanks. -/
def asFloat? : HostValue → Option Float
  | number value => some value
  | bool value => some (if value then 1.0 else 0.0)
  | string text => Decimal.readFloat? (Text.trim text)
  | _ => none

/-- The value as a word: its number without the fraction, the nearest word when
it is out of range, and 0 when it is not a number. -/
def asWord? (value : HostValue) : Option UInt32 :=
  value.asFloat?.map Float.toUInt32

/-- Scalars are equal by value, objects and functions by identity. -/
def equal : HostValue → HostValue → Bool
  | null, null => true
  | bool a, bool b => a == b
  | number a, number b => a == b
  | string a, string b => a == b
  | bytes a, bytes b => a == b
  | object a, object b => a == b
  | function a, function b => a == b
  | _, _ => false

instance : BEq HostValue := ⟨equal⟩

end HostValue

/-- The properties of an object. -/
abbrev Properties := Fields HostValue

/-- The objects made so far, each at the place that is its identity. -/
structure Heap where
  objects : Array Properties := #[]

namespace Heap

/-- The properties of an object; none where there is no object. -/
def properties (heap : Heap) (id : ObjectId) : Properties :=
  heap.objects.getD id []

/-- Make an object without properties. -/
def allocate (heap : Heap) : ObjectId × Heap :=
  (heap.objects.size, ⟨heap.objects.push []⟩)

/-- A property of an object. -/
def get? (heap : Heap) (id : ObjectId) (name : String) : Option HostValue :=
  Fields.get? name (heap.properties id)

/-- Set a property of an object. -/
def set (heap : Heap) (id : ObjectId) (name : String) (value : HostValue) : Heap :=
  ⟨heap.objects.modify id (Fields.set name value)⟩

/-- Remove a property of an object. -/
def remove (heap : Heap) (id : ObjectId) (name : String) : Heap :=
  ⟨heap.objects.modify id (Fields.remove name)⟩

/-- The names of an object's properties, in order. -/
def names (heap : Heap) (id : ObjectId) : List String :=
  Fields.names (heap.properties id)

/-- A property of any value: that of an object, or the length of a string in
characters or of bytes. -/
def property? (heap : Heap) (name : String) : HostValue → Option HostValue
  | .object id => heap.get? id name
  | .string text => if name = "length" then some (.number text.length.toFloat) else none
  | .bytes value => if name = "length" then some (.number value.length.toFloat) else none
  | _ => none

end Heap

/-- What a host function does with the receiver, the arguments and the heap: it
answers with a value, or gives up with a message. -/
abbrev HostFunction := HostValue → List HostValue → Heap → Except String HostValue × Heap

/-- The functions made so far. -/
abbrev Functions := Array HostFunction

namespace Functions

/-- Call a function; a number that names none answers with the null value. -/
def apply (functions : Functions) (id : FunctionId) (this : HostValue) (args : List HostValue)
    (heap : Heap) : Except String HostValue × Heap :=
  match functions[id]? with
  | some function => function this args heap
  | none => (.ok .null, heap)

end Functions

end WasmBridge
