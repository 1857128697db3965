import WasmBridge.Handle.Basic
import WasmBridge.Json.Basic
import WasmBridge.Memory.Range
import WasmBridge.Value.Basic
import WasmBridge.Wire.Envelope

/-!
# What a library does with a message

A library serves a message by a finite program: a tree of requests to the
context that the message came from, each branch of which ends in an answer, in a
fault, or in giving up.  A request may make the guest run, and the guest may send
messages of its own meanwhile; the program sees only the response.
-/

namespace WasmBridge

/-- What a library may ask of the context that a message came from. -/
inductive Request where
  /-- The number of the context. -/
  | contextId
  /-- The value of a handle. -/
  | lookup (handle : Handle)
  /-- A new handle for a value. -/
  | insert (value : HostValue)
  /-- The end of a handle, and the value it had. -/
  | release (handle : Handle)
  /-- How many handles are live. -/
  | liveCount
  /-- The global object. -/
  | globalObject
  /-- A property of a value. -/
  | property (value : HostValue) (name : String)
  /-- A new value for a property of an object, and the value it had. -/
  | setProperty (id : ObjectId) (name : String) (value : HostValue)
  /-- How many properties an object has. -/
  | propertyCount (id : ObjectId)
  /-- The text of a value. -/
  | textOf (value : HostValue)
  /-- The answer of a function, or the message with which it gave up. -/
  | apply (function : FunctionId) (this : HostValue) (args : List HostValue)
  /-- The size of the guest's memory. -/
  | memorySize
  /-- A copy of a stretch of the guest's memory. -/
  | view (offset length : UInt32)
  /-- New bytes for a stretch of the guest's memory. -/
  | write (offset : UInt32) (bytes : Bytes)
  /-- A stretch of the guest's memory as text. -/
  | readText (offset length : UInt32)
  /-- Bytes put where the guest makes room for them. -/
  | writeBytes (bytes : Bytes)
  /-- How many libraries the context has registered. -/
  | libraryCount
  /-- How many worker threads the guest may count on. -/
  | availableThreads
  /-- The answer to another message. -/
  | route (envelope : Wire.Envelope)
  /-- A remark in the journal of the host. -/
  | note (remark : Json)

/-- The response to a request. -/
def Request.Response : Request → Type
  | contextId => UInt32
  | lookup _ => Except Fault HostValue
  | insert _ => Except Fault Handle
  | release _ => Option HostValue
  | liveCount => Nat
  | globalObject => ObjectId
  | property _ _ => Option HostValue
  | setProperty _ _ _ => Option HostValue
  | propertyCount _ => Nat
  | textOf _ => String
  | apply _ _ _ => Except String HostValue
  | memorySize => Except Fault Nat
  | view _ _ => Except Fault Bytes
  | write _ _ => Except Fault Unit
  | readText _ _ => Except Fault String
  | writeBytes _ => Except Fault GuestRange
  | libraryCount => Nat
  | availableThreads => UInt32
  | route _ => Except Fault UInt32
  | note _ => Unit

/-- What a library leaves behind when it gives up. -/
inductive Panic where
  | message (text : String)
  /-- Something that is no text. -/
  | other
deriving DecidableEq

/-- The wording of a panic. -/
def Panic.text : Panic → String
  | message text => text
  | other => "non-string panic payload"

/-- How a program ends when it does not answer. -/
inductive Failure where
  | fault (fault : Fault)
  | panic (panic : Panic)
deriving DecidableEq

/-- A program of requests. -/
inductive Program (α : Type) where
  | answer (value : α)
  | fail (failure : Failure)
  | request (request : Request) (next : request.Response → Program α)

namespace Program

variable {α β : Type}

/-- Go on after a program with what it answers. -/
def andThen (next : α → Program β) : Program α → Program β
  | answer value => next value
  | fail failure => fail failure
  | request asked rest => request asked fun response => andThen next (rest response)

instance : Monad Program where
  pure := answer
  bind program next := andThen next program

/-- Ask and answer with the response. -/
def ask (asked : Request) : Program asked.Response :=
  request asked answer

/-- End with a fault. -/
def refuse (fault : Fault) : Program α :=
  fail (.fault fault)

/-- Give up. -/
def panic (panic : Panic) : Program α :=
  fail (.panic panic)

/-- Answer with a result unless it is a fault. -/
def ofExcept : Except Fault α → Program α
  | .ok value => answer value
  | .error fault => fail (.fault fault)

/-- The value of a handle. -/
def lookup (handle : Handle) : Program HostValue :=
  request (.lookup handle) ofExcept

/-- A new handle for a value. -/
def insert (value : HostValue) : Program Handle :=
  request (.insert value) ofExcept

/-- The answer of a function, giving up if it does. -/
def apply (function : FunctionId) (this : HostValue) (args : List HostValue) :
    Program HostValue :=
  request (.apply function this args) fun
    | .ok value => answer value
    | .error text => fail (.panic (.message text))

/-- The size of the guest's memory. -/
def memorySize : Program Nat :=
  request .memorySize ofExcept

/-- A copy of a stretch of the guest's memory. -/
def view (offset length : UInt32) : Program Bytes :=
  request (.view offset length) ofExcept

/-- New bytes for a stretch of the guest's memory. -/
def write (offset : UInt32) (bytes : Bytes) : Program Unit :=
  request (.write offset bytes) ofExcept

/-- A stretch of the guest's memory as text. -/
def readText (offset length : UInt32) : Program String :=
  request (.readText offset length) ofExcept

/-- Bytes put where the guest makes room for them. -/
def writeBytes (bytes : Bytes) : Program GuestRange :=
  request (.writeBytes bytes) ofExcept

/-- A text put where the guest makes room for it. -/
def writeText (text : String) : Program GuestRange :=
  writeBytes (Text.Utf8.encode text)

/-- The answer to another message. -/
def route (envelope : Wire.Envelope) : Program UInt32 :=
  request (.route envelope) ofExcept

/-- Nothing comes after an answer but what follows it. -/
theorem andThen_answer (program : Program α) : andThen answer program = program := by
  induction program with
  | answer _ => rfl
  | fail _ => rfl
  | request asked rest ih => rw [andThen, funext ih]

/-- What follows may be grouped in either way. -/
theorem andThen_assoc {γ : Type} (program : Program α) (next : α → Program β)
    (last : β → Program γ) :
    andThen last (andThen next program)
      = andThen (fun value => andThen last (next value)) program := by
  induction program with
  | answer _ => rfl
  | fail _ => rfl
  | request asked rest ih => rw [andThen, andThen, andThen, funext ih]

end Program

end WasmBridge
