import WasmBridge.Fault
import WasmBridge.Json.Basic

/-!
# Log events

What a host reports while it works.  An event has a level, the target it is
reported under, a message, and fields that name what it is about.
-/

namespace WasmBridge.Log

/-- How important an event is. -/
inductive Level where
  | error
  | warn
  | info
deriving DecidableEq

namespace Level

/-- The name of a level. -/
def name : Level → String
  | error => "error"
  | warn => "warn"
  | info => "info"

/-- How far the filter must be open for the level. -/
def verbosity : Level → Nat
  | error => 1
  | warn => 2
  | info => 3

end Level

/-- The target of what guests say. -/
def guestTarget : String := "kwasm::guest"

/-- The name of the span of everything a context does. -/
def contextSpan : String := "guest_context"

/-- The names of the fields of the span. -/
def contextSpanFields : List String := ["context", "role"]

/-- What a context is for. -/
inductive Role where
  | main
  | worker
deriving DecidableEq

/-- The name of a role. -/
def Role.name : Role → String
  | main => "main"
  | worker => "worker"

/-- The target of what a context reports about itself. -/
def Role.target : Role → String
  | main => "kwasm_host::guest"
  | worker => "kwasm_host::worker"

/-- An event. -/
inductive Event where
  /-- A host was built. -/
  | hostReady (module : String) (sharedMemory : Bool) (libraries : Nat)
  /-- A message of a guest could not be served. -/
  | messageFailed (context library command : UInt32) (fault : Fault)
  | libraryRegistered (context : UInt32) (name : String) (library : UInt32)
  /-- What a guest says, as information or as an error. -/
  | guestText (context : UInt32) (level : Level) (text : String)
  /-- The command without a meaning was sent. -/
  | reservedCommand (context : UInt32)
  /-- A function that nobody provides was called. -/
  | stubCalled (context : UInt32) (qualified : String)
  | noLinearMemory
  /-- A worker's guest does not let its stack pointer be set. -/
  | stackPointerKept (stackPointer : UInt32)
  | workerFinished (worker : UInt32)
  | workerFailed (worker : UInt32) (fault : Fault)
  | loadingGuest (path : String)
  | guestFinished (workers : Nat)
  /-- The span of a context ended. -/
  | contextClosed (context : UInt32) (role : Role)
deriving DecidableEq

namespace Event

/-- The level of an event. -/
def level : Event → Level
  | messageFailed .. | reservedCommand .. | stubCalled .. | noLinearMemory
  | stackPointerKept .. => .warn
  | workerFailed .. => .error
  | guestText _ level _ => level
  | _ => .info

/-- The target of an event. -/
def target : Event → String
  | hostReady .. | noLinearMemory => Role.main.target
  | messageFailed .. | libraryRegistered .. | reservedCommand .. => "kwasm_host::router"
  | guestText .. => guestTarget
  | stubCalled .. => "kwasm_host::host"
  | stackPointerKept .. | workerFinished .. | workerFailed .. => Role.worker.target
  | loadingGuest .. | guestFinished .. => "kwasm::commands::run"
  | contextClosed _ role => role.target

/-- The message of an event. -/
def message : Event → String
  | hostReady .. => "host ready"
  | messageFailed _ _ _ fault => s!"message failed: {fault.text}"
  | libraryRegistered .. => "registered library"
  | guestText _ _ text => text
  | reservedCommand .. => "reserved control command ignored"
  | stubCalled .. => "unimplemented import called; returning defaults"
  | noLinearMemory => "guest has no linear memory; memory access will fail"
  | stackPointerKept .. =>
    "guest exports neither set_stack_pointer nor a mutable __stack_pointer; " ++
      "worker keeps the module's initial stack pointer"
  | workerFinished .. => "worker finished"
  | workerFailed _ fault => s!"worker failed: {fault.text}"
  | loadingGuest .. => "Loading guest"
  | guestFinished .. => "Guest finished"
  | contextClosed .. => "close"

/-- A word as a field. -/
def word (value : UInt32) : Json := .integer value.toNat

/-- What an event is about. -/
def fields : Event → List (String × Json)
  | hostReady module sharedMemory libraries => [
    ("module", .string module),
    ("shared_memory", .bool sharedMemory),
    ("libraries", .integer libraries)]
  | messageFailed context library command fault => [
    ("context", word context),
    ("library", word library),
    ("command", word command),
    ("code", .string fault.code)]
  | libraryRegistered context name library => [
    ("context", word context),
    ("library", .string name),
    ("id", word library)]
  | guestText context _ _ => [("context", word context)]
  | reservedCommand context => [("context", word context)]
  | stubCalled context qualified => [
    ("context", word context),
    ("import", .string qualified)]
  | noLinearMemory => []
  | stackPointerKept stackPointer => [("stack_pointer", word stackPointer)]
  | workerFinished worker => [("worker", word worker)]
  | workerFailed worker fault => [
    ("worker", word worker),
    ("code", .string fault.code)]
  | loadingGuest path => [("module", .string path)]
  | guestFinished workers => [("workers", .integer workers)]
  | contextClosed .. => []

/-- The names of everything that an event says. -/
def fieldNames (event : Event) : List String :=
  "message" :: event.fields.map Prod.fst

/-- Whether an event is reported by a context, not by the host itself. -/
def isOfContext : Event → Bool
  | hostReady .. | loadingGuest .. | guestFinished .. => false
  | _ => true

end Event

end WasmBridge.Log
