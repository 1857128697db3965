import WasmBridge.Fault
import WasmBridge.Text.Outline

/-!
# Envelopes

A guest reaches its host through one function of four words: a library, a
command, and the stretch of guest memory that holds the payload.  Library 0 is
never served, library 1 is the control library, and the libraries a context
registers are numbered from 2 on.
-/

namespace WasmBridge.Wire

/-- The number that names no library. -/
def nullLibrary : UInt32 := 0

/-- The number of the control library. -/
def controlLibrary : UInt32 := 1

/-- The number of the first library a context registers. -/
def firstLibrary : UInt32 := 2

/-- One message of a guest to its host. -/
structure Envelope where
  library : UInt32
  command : UInt32
  pointer : UInt32
  length : UInt32
deriving DecidableEq

/-- Whether the message is for the control library. -/
def Envelope.isControl (envelope : Envelope) : Bool :=
  envelope.library == controlLibrary

/-- The envelope in diagnostics. -/
def Envelope.describe (envelope : Envelope) : String :=
  Text.Outline.record "Envelope" [
    ("library_id", toString envelope.library),
    ("command_id", toString envelope.command),
    ("data_ptr", toString envelope.pointer),
    ("data_len", toString envelope.length)]

/-- The commands of the control library. -/
inductive ControlCommand where
  /-- Register a library of the catalog; the payload is its name. -/
  | newLibrary
  /-- Log the payload as information. -/
  | log
  /-- Log the payload as an error. -/
  | logError
  /-- The size of a thread's local storage. -/
  | tlsSize
  /-- The alignment of a thread's local storage. -/
  | tlsAlign
  /-- How many worker threads the guest may count on. -/
  | availableThreads
  /-- Start a worker; the payload is its launch record. -/
  | spawnWorker
  /-- Accepted and ignored. -/
  | reserved
  /-- Read a property; the payload is the handle of a value and of a name. -/
  | getProperty
deriving DecidableEq

namespace ControlCommand

/-- The commands in the order of their numbers. -/
def all : List ControlCommand :=
  [newLibrary, log, logError, tlsSize, tlsAlign, availableThreads, spawnWorker, reserved,
    getProperty]

/-- The number of a command. -/
def toWord : ControlCommand → UInt32
  | newLibrary => 0
  | log => 1
  | logError => 2
  | tlsSize => 3
  | tlsAlign => 4
  | availableThreads => 5
  | spawnWorker => 6
  | reserved => 7
  | getProperty => 8

/-- The command of a number. -/
def ofWord (word : UInt32) : Except Fault ControlCommand :=
  match all[word.toNat]? with
  | some command => .ok command
  | none => .error (.unknownCommand controlLibrary word)

/-- The name of a command in logs. -/
def name : ControlCommand → String
  | newLibrary => "new_library"
  | log => "log"
  | logError => "log_error"
  | tlsSize => "tls_size"
  | tlsAlign => "tls_align"
  | availableThreads => "available_threads"
  | spawnWorker => "spawn_worker"
  | reserved => "reserved"
  | getProperty => "get_property"

/-- The title of a command in diagnostics. -/
def describe : ControlCommand → String
  | newLibrary => "NewLibrary"
  | log => "Log"
  | logError => "LogError"
  | tlsSize => "TlsSize"
  | tlsAlign => "TlsAlign"
  | availableThreads => "AvailableThreads"
  | spawnWorker => "SpawnWorker"
  | reserved => "Reserved"
  | getProperty => "GetProperty"

/-- The commands are numbered by their place in `all`. -/
theorem ofWord_toWord (command : ControlCommand) : ofWord command.toWord = .ok command := by
  cases command <;> rfl

end ControlCommand

/-- The commands of the objects library. -/
inductive ObjectCommand where
  /-- Store the payload as text. -/
  | newString
  /-- Release the handle in the payload. -/
  | release
  /-- Call a function; the payload holds its handle, the receiver's and the arguments'. -/
  | call
  /-- Write the text of a value into the guest. -/
  | readString
  /-- The value of a number. -/
  | numberValue
  /-- Store the payload as bytes. -/
  | newBytes
  /-- Read a property; the payload is the handle of a value and the name as text. -/
  | getNamed
deriving DecidableEq

namespace ObjectCommand

/-- The commands in the order of their numbers. -/
def all : List ObjectCommand :=
  [newString, release, call, readString, numberValue, newBytes, getNamed]

/-- The number of a command. -/
def toWord : ObjectCommand → UInt32
  | newString => 0
  | release => 1
  | call => 2
  | readString => 3
  | numberValue => 4
  | newBytes => 5
  | getNamed => 6

/-- The command of a number.  The library does not know its own number here, so
the fault names library 0. -/
def ofWord (word : UInt32) : Except Fault ObjectCommand :=
  match all[word.toNat]? with
  | some command => .ok command
  | none => .error (.unknownCommand nullLibrary word)

/-- The title of a command in diagnostics. -/
def describe : ObjectCommand → String
  | newString => "NewString"
  | release => "Release"
  | call => "Call"
  | readString => "ReadString"
  | numberValue => "NumberValue"
  | newBytes => "NewBytes"
  | getNamed => "GetNamed"

/-- The commands are numbered by their place in `all`. -/
theorem ofWord_toWord (command : ObjectCommand) : ofWord command.toWord = .ok command := by
  cases command <;> rfl

end ObjectCommand

end WasmBridge.Wire
