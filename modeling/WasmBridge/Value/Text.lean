import WasmBridge.Decimal.Written
import WasmBridge.Json.Printer
import WasmBridge.Text.Outline
import WasmBridge.Text.Quoted
import WasmBridge.Value.Json

/-!
# Host values as text

`toText` is the text a guest is given for a value; `describe` is its form in
diagnostics.
-/

namespace WasmBridge

/-- The text of a number: its digits alone for a whole number below `10 ^ 15`. -/
def numberText (value : Float) : String :=
  match (Decimal.Binary.ofFloat value).integer? with
  | some whole =>
    if whole.natAbs < Nat.pow 10 15 then toString whole else Decimal.write .plain value
  | none => Decimal.write .plain value

/-- The text of a value; an object as JSON. -/
def Heap.toText (heap : Heap) : HostValue → String
  | .null => "null"
  | .bool value => toString value
  | .number value => numberText value
  | .string text => text
  | .bytes value => Text.Utf8.decodeLossy value
  | .object id => (heap.toJson (.object id)).compact
  | .function _ => "[function]"

/-- An object in diagnostics. -/
def Heap.describeObject (heap : Heap) (id : ObjectId) : String :=
  Text.Outline.record "HostObject" [
    ("keys", Text.Outline.brackets ((heap.names id).map Text.quote))]

/-- A value in diagnostics. -/
def Heap.describe (heap : Heap) : HostValue → String
  | .null => "Null"
  | .bool value => s!"Bool({value})"
  | .number value => s!"Number({Decimal.write .described value})"
  | .string text => s!"String({Text.quote text})"
  | .bytes value => s!"Bytes({value.length})"
  | .object id => heap.describeObject id
  | .function _ => "Function"

end WasmBridge
