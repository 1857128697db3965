import WasmBridge.Text.Blank
import WasmBridge.Wasm.Description
import WasmBridge.Wasm.Validity

/-!
# Forms of modules

A module is written in binary or as text.  The binary form is that of the empty
module.  The text form is a description between parentheses after the word
`module`; without a description the module is empty.
-/

namespace WasmBridge.Wasm

/-- The empty module in binary form. -/
def emptyBinary : Bytes := [0x00, 0x61, 0x73, 0x6D, 0x01, 0x00, 0x00, 0x00]

/-- The module of a binary form. -/
def Module.ofBinary? (bytes : Bytes) : Option Module :=
  if bytes = emptyBinary then some {} else none

/-- What stands between the parentheses of a text form. -/
def enclosed? (chars : List Char) : Option (List Char) :=
  match Json.expect? "(module".toList chars with
  | some rest =>
    match rest.reverse with
    | ')' :: inner => some inner.reverse
    | _ => none
  | none => none

/-- The module of a text form. -/
def Module.ofText? (text : String) : Option Module :=
  match enclosed? (Text.trim text).toList with
  | none => none
  | some inner =>
    match Text.trimChars inner with
    | [] => some {}
    | chars => (Json.parse? (String.ofList chars)).bind Module.ofJson?

/-- The module of either form. -/
def Module.ofBytes? (bytes : Bytes) : Option Module :=
  (Module.ofBinary? bytes).or ((Text.Utf8.decode? bytes).bind Module.ofText?)

/-- The valid module read by `read`, or why there is none. -/
def Module.check (threads : Bool) (read : Option Module) : Except Invalid Module :=
  match read with
  | none => .error .malformed
  | some module =>
    match module.invalid? threads with
    | some invalid => .error invalid
    | none => .ok module

end WasmBridge.Wasm
