import WasmBridge.Text.Utf8

/-!
# Faults

Everything that can go wrong between a host and its guests, with the data that
locates it.  Each fault has a code, a text that begins with the code, and a
verdict whether it ends the worker it happens in.  A fault met while one message
is served ends that message only: the guest sees the answer 0.
-/

namespace WasmBridge

/-- A fault and what it is about. -/
inductive Fault where
  /-- A stretch of memory does not fit into the memory as it is now. -/
  | outOfBounds (offset length size : Nat)
  /-- Bytes that should be text are not. -/
  | invalidEncoding (offset length : UInt32) (cause : String)
  /-- A context without a bound memory was asked for it. -/
  | memoryUnavailable (context : UInt32)
  /-- No value was ever stored under the handle, or its slot is empty. -/
  | invalidHandle (handle : UInt32)
  /-- The slot of the handle holds a later value. -/
  | staleHandle (handle slot : UInt32) (current : UInt8)
  /-- Every slot a handle can name is taken. -/
  | tableFull (capacity : UInt32)
  /-- A value is not of the kind an operation needs. -/
  | typeMismatch (handle : UInt32) (expected found : String)
  /-- No library is registered under the number. -/
  | unknownLibrary (library : UInt32)
  /-- The catalog offers no library of the name. -/
  | unknownLibraryName (name : String)
  /-- The library has no such command. -/
  | unknownCommand (library command : UInt32)
  /-- A payload does not have the length its command expects. -/
  | malformedPayload (what : String) (expected actual : Nat)
  /-- A library gave up in the middle of a command. -/
  | libraryPanic (library : UInt32) (message : String)
  /-- A module could not be instantiated. -/
  | instantiationFailure (context : UInt32) (cause : String)
  /-- The guest lacks an export, or it has another type. -/
  | missingExport (name : String)
  /-- No worker may be started. -/
  | threadsUnavailable (cause : String)
  /-- The system refused to start a worker. -/
  | workerSpawn (worker : UInt32) (cause : String)
  /-- A function of the guest trapped. -/
  | guestTrap (function cause : String)
  /-- A module is not valid. -/
  | moduleLoad (name cause : String)
  /-- The engine refused a definition. -/
  | engine (cause : String)
  /-- A setting is out of its range. -/
  | configuration (field cause : String)
  /-- A file could not be read. -/
  | io (path cause : String)
deriving DecidableEq

namespace Fault

/-- The code of a fault. -/
def code : Fault → String
  | outOfBounds .. => "E101"
  | invalidEncoding .. => "E102"
  | memoryUnavailable .. => "E103"
  | invalidHandle .. => "E201"
  | staleHandle .. => "E202"
  | tableFull .. => "E203"
  | typeMismatch .. => "E204"
  | unknownLibrary .. => "E301"
  | unknownLibraryName .. => "E302"
  | unknownCommand .. => "E303"
  | malformedPayload .. => "E304"
  | libraryPanic .. => "E305"
  | instantiationFailure .. => "E401"
  | missingExport .. => "E402"
  | threadsUnavailable .. => "E403"
  | workerSpawn .. => "E404"
  | guestTrap .. => "E405"
  | moduleLoad .. => "E501"
  | engine .. => "E502"
  | configuration .. => "E503"
  | io .. => "E504"

/-- What happened, without the code. -/
def description : Fault → String
  | outOfBounds offset length size =>
    s!"Memory access out of bounds: offset {offset}, length {length}, size {size}"
  | invalidEncoding offset length cause =>
    s!"Invalid UTF-8 at offset {offset} (length {length}): {cause}"
  | memoryUnavailable context => s!"No linear memory bound to context {context}"
  | invalidHandle handle => s!"Invalid handle {handle}"
  | staleHandle handle slot current =>
    s!"Stale handle {handle}: slot {slot} is now at generation {current}"
  | tableFull capacity => s!"Object table full ({capacity} slots)"
  | typeMismatch handle expected found =>
    s!"Type mismatch for handle {handle}: expected {expected}, found {found}"
  | unknownLibrary library => s!"Unknown library id {library}"
  | unknownLibraryName name => s!"No library named '{name}' in the host catalog"
  | unknownCommand library command => s!"Library {library} has no command {command}"
  | malformedPayload what expected actual =>
    s!"Malformed payload for {what}: expected {expected} bytes, got {actual}"
  | libraryPanic library message => s!"Library {library} panicked: {message}"
  | instantiationFailure context cause =>
    s!"Failed to instantiate module in context {context}: {cause}"
  | missingExport name => s!"Guest export '{name}' is missing or has the wrong type"
  | threadsUnavailable cause => s!"Worker threads unavailable: {cause}"
  | workerSpawn worker cause => s!"Failed to spawn worker {worker}: {cause}"
  | guestTrap function cause => s!"Guest function '{function}' trapped: {cause}"
  | moduleLoad name cause => s!"Failed to load WASM module '{name}': {cause}"
  | engine cause => s!"Wasm engine error: {cause}"
  | configuration field cause => s!"Invalid configuration '{field}': {cause}"
  | io path cause => s!"I/O error at {path}: {cause}"

/-- The text of a fault: its code and what happened. -/
def text (fault : Fault) : String :=
  s!"{fault.code}: {fault.description}"

/-- Whether the fault ends a worker rather than one call. -/
def endsWorker : Fault → Bool
  | instantiationFailure .. | missingExport .. | guestTrap .. => true
  | _ => false

end Fault

/-- Read bytes as text; `offset` is where in guest memory they came from. -/
def decodeText (bytes : Bytes) (offset : UInt32) : Except Fault String :=
  match Text.Utf8.decode bytes with
  | .ok text => .ok text
  | .error malformed =>
    .error (.invalidEncoding offset (UInt32.ofNat bytes.length) malformed.cause)

end WasmBridge
