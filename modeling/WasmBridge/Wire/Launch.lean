import WasmBridge.Wire.Words

/-!
# Launch records

What a guest hands over when it asks for a worker: three words.
-/

namespace WasmBridge.Wire

/-- What a new worker needs from the guest that asked for it. -/
structure Launch where
  /-- The value passed to the guest's entry point of the thread. -/
  entry : UInt32
  /-- The initial stack pointer. -/
  stackPointer : UInt32
  /-- The block for the thread's local storage. -/
  tlsPointer : UInt32
deriving DecidableEq

namespace Launch

/-- The length of a record. -/
def encodedLength : Nat := 12

/-- The record on the wire. -/
def encode (launch : Launch) : Bytes :=
  encodeWord launch.entry ++ encodeWord launch.stackPointer ++ encodeWord launch.tlsPointer

/-- Read a record. -/
def decode (payload : Bytes) : Except Fault Launch :=
  match payload.length == encodedLength, groupWords payload with
  | true, [entry, stackPointer, tlsPointer] => .ok ⟨entry, stackPointer, tlsPointer⟩
  | _, _ => .error (.malformedPayload "worker launch record" encodedLength payload.length)

end Launch

end WasmBridge.Wire
