import WasmBridge.Json.Printer
import WasmBridge.Log.Event
import WasmBridge.Log.Settings

/-!
# Events as lines

An event is written on a line of its own, as JSON or as plain text, with the name
of the thread it was reported on if the settings ask for it.
-/

namespace WasmBridge.Log

/-- The name of the thread of a context. -/
def threadName (context : UInt32) : String :=
  if context = 0 then "main" else s!"kwasm-worker-{context}"

/-- The name of the thread, if it is written. -/
def Settings.threadName? (settings : Settings) (context : UInt32) : Option String :=
  if settings.threadNames then some (threadName context) else none

/-- The span that an event ends, as JSON. -/
def Event.spanFields : Event → List (String × Json)
  | .contextClosed context role => [("span", .object [
    ("context", word context),
    ("role", .string role.name),
    ("name", .string contextSpan)])]
  | _ => []

/-- An event as JSON. -/
def Event.toJson (settings : Settings) (context : UInt32) (event : Event) : Json :=
  .object ([("level", .string event.level.name.toUpper), ("message", .string event.message)]
    ++ event.fields
    ++ [("target", .string event.target)]
    ++ event.spanFields
    ++ (settings.threadName? context).toList.map fun name => ("threadName", .string name))

/-- An event as plain text. -/
def Event.toText (settings : Settings) (context : UInt32) (event : Event) : String :=
  " ".intercalate ([event.level.name.toUpper]
    ++ (settings.threadName? context).toList
    ++ [event.target ++ ":", event.message]
    ++ event.fields.map fun (name, value) => s!"{name}={value.compact}")

/-- An event as a line. -/
def Event.line (settings : Settings) (context : UInt32) (event : Event) : String :=
  match settings.format with
  | .json => (event.toJson settings context).compact
  | .pretty => "  " ++ event.toText settings context
  | .compact => event.toText settings context

end WasmBridge.Log
