import WasmBridge.Decimal.Binary
import WasmBridge.Decimal.Numeral
import WasmBridge.Fields

/-!
# JSON values

A JSON value keeps whole numbers apart from the others, because they are
written differently.  An object that is read, or made by `Json.ofFields`, has its
fields in the order of their names, one field a name; a report may put them in
an order of its own.
-/

namespace WasmBridge

/-- A JSON value. -/
inductive Json where
  | null
  | bool (value : Bool)
  | integer (value : Int)
  | number (value : Float)
  | string (text : String)
  | array (items : List Json)
  | object (fields : List (String × Json))
deriving Inhabited

namespace Json

/-- The object with these fields. -/
def ofFields (fields : List (String × Json)) : Json :=
  .object (Fields.ofList fields)

/-- A field of an object. -/
def field? (name : String) : Json → Option Json
  | .object fields => Fields.get? name fields
  | _ => none

/-- The number of a double; one that is not finite has none. -/
def ofFloat (value : Float) : Json :=
  match Decimal.Binary.ofFloat value with
  | .finite .. => .number value
  | _ => .null

/-- The double nearest to a whole number. -/
def floatOfInt (value : Int) : Float :=
  Decimal.withSign (value < 0) (Decimal.roundToFloat value.natAbs 0)

end Json

end WasmBridge
