import WasmBridge.Library.Registry
import WasmBridge.Wire.Words

/-!
# The objects library

Through this library a guest makes host values, looks at them, and calls them,
by the handles of its context.  An answer that is the null value is handle 0 and
takes no slot.
-/

namespace WasmBridge.Objects

/-- The name of the library. -/
def libraryName : String := "kwasm.objects"

/-- The handle of an answer. -/
def store (value : HostValue) : Program Handle :=
  if value.isNull then return Handle.null else Program.insert value

/-- The handle of a property of the value of a handle; of a property that is
missing, the null handle. -/
def readProperty (object : Handle) (name : String) : Program Handle := do
  let value ← Program.lookup object
  match ← Program.ask (.property value name) with
  | some property => store property
  | none => return Handle.null

/-- The values of handles, in order. -/
def lookupAll : List Handle → Program (List HostValue)
  | [] => return []
  | handle :: rest => do
    let value ← Program.lookup handle
    return value :: (← lookupAll rest)

/-- Call the function of a handle. -/
def call (function this : Handle) (args : List Handle) : Program Handle := do
  let target ← Program.lookup function
  let this ← Program.lookup this
  let args ← lookupAll args
  match target with
  | .function id => store (← Program.apply id this args)
  | _ => Program.refuse (.typeMismatch function "function" target.kind)

/-- The program of a command. -/
def serveCommand (command : Wire.ObjectCommand) (payload : Bytes) : Program UInt32 :=
  match command with
  | .newString => do
    let text ← Program.ofExcept (decodeText payload 0)
    Program.insert (.string text)
  | .release => do
    let handle ← Program.ofExcept (Wire.decodeOne payload "release")
    let _ ← Program.ask (.release handle)
    return 0
  | .call => do
    match ← Program.ofExcept (Wire.decodeWords payload "call") with
    | function :: this :: args => call function this args
    | _ => Program.refuse (.malformedPayload "call" 8 payload.length)
  | .readString => do
    let handle ← Program.ofExcept (Wire.decodeOne payload "read string")
    let value ← Program.lookup handle
    let range ← Program.writeText (← Program.ask (.textOf value))
    return range.size
  | .numberValue => do
    let handle ← Program.ofExcept (Wire.decodeOne payload "number value")
    let value ← Program.lookup handle
    match value.asWord? with
    | some word => return word
    | none => Program.refuse (.typeMismatch handle "number" value.kind)
  | .newBytes => Program.insert (.bytes payload)
  | .getNamed => do
    if payload.length < 4 then
      Program.refuse (.malformedPayload "named property lookup" 4 payload.length)
    else
      let object ← Program.ofExcept (Wire.decodeOne (payload.take 4) "named property lookup")
      let name ← Program.ofExcept (decodeText (payload.drop 4) 4)
      readProperty object name

/-- The library. -/
def library : Library where
  name := libraryName
  serve command payload := do
    let command ← Program.ofExcept (Wire.ObjectCommand.ofWord command)
    serveCommand command payload

/-- The catalog of a host that offers nothing else. -/
def standardCatalog : Catalog :=
  Catalog.insert [] library

end WasmBridge.Objects
