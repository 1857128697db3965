import WasmBridge.Memory.Linear
import WasmBridge.Text.Outline

/-!
# The bridge to guest memory

Once the memory of an instance is known, the context binds a bridge to it.  The
bridge says whether workers can attach to the memory, and whether the guest makes
room for bytes from the host.  Through it the host copies stretches: the cells of a
shared memory by itself, those of another memory by means of the engine.
-/

namespace WasmBridge

/-- A bridge to the memory of a context. -/
structure Bridge where
  shared : Bool
  canReserve : Bool
deriving DecidableEq

namespace Bridge

/-- Copy a stretch out of the memory. -/
def view (bridge : Bridge) (memory : LinearMemory) (offset length : UInt32) :
    Except Fault Bytes := do
  memory.check offset.toNat length.toNat
  if bridge.shared then return memory.slice offset.toNat length.toNat
  else match memory.slice? offset.toNat length.toNat with
    | some bytes => return bytes
    | none => throw (memory.outside offset.toNat length.toNat)

/-- Copy bytes into the memory. -/
def write (bridge : Bridge) (memory : LinearMemory) (offset : UInt32) (bytes : Bytes) :
    Except Fault LinearMemory := do
  memory.check offset.toNat bytes.length
  if bridge.shared then return memory.put offset.toNat bytes
  else match memory.put? offset.toNat bytes with
    | some written => return written
    | none => throw (memory.outside offset.toNat bytes.length)

/-- Read a stretch as text. -/
def readText (bridge : Bridge) (memory : LinearMemory) (offset length : UInt32) :
    Except Fault String := do
  let bytes ← bridge.view memory offset length
  match Text.Utf8.decode bytes with
  | .ok text => return text
  | .error malformed => throw (.invalidEncoding offset length malformed.cause)

/-- The bridge in diagnostics; `bytes` is the size of the memory. -/
def describe (bytes : Nat) (bridge : Bridge) : String :=
  let memory :=
    if bridge.shared then Text.Outline.record "Shared" [("bytes", toString bytes)] else "Local"
  Text.Outline.record "MemoryBridge" [
    ("memory", memory),
    ("reserve", toString bridge.canReserve)]

end Bridge

end WasmBridge
