import WasmBridge.Context.Basic
import WasmBridge.Guest.Trap

/-!
# Entering a context again

While a context serves a message, it may be entered again: the host calls an
export of the guest, and the guest sends messages meanwhile.  Whatever serves
messages or runs guest code does so for any way of entering again; how deep the
nesting may go is settled elsewhere.
-/

namespace WasmBridge

/-- Ways of entering a context while it works. -/
structure Reentry where
  /-- Call a function of the guest. -/
  call : Wasm.Designator → List Wasm.Value → Activity (Except Guest.Trap (List Wasm.Value))
  /-- Route a message. -/
  route : Wire.Envelope → Activity (Except Fault UInt32)

namespace Reentry

/-- Call an export of the guest; a trap is a fault that names it. -/
def enter (again : Reentry) (name : String) (args : List Wasm.Value) :
    Attempt (List Wasm.Value) := do
  match ← again.call (.exported name) args with
  | .ok results => return results
  | .error trap => throw (.guestTrap name trap.text)

/-- Call an export of the guest with words, and answer with its first result. -/
def enterWithWords (again : Reentry) (name : String) (args : List UInt32) : Attempt UInt32 := do
  let results ← again.enter name (args.map .word)
  return (results.headD (.word 0)).toWord

/-- Put bytes where the guest makes room for them.  The memory is looked up
again after the guest made room, for it may have grown. -/
def writeBytes (again : Reentry) (bytes : Bytes) : Attempt GuestRange := do
  let (bridge, memory) ← Attempt.bridged
  if ¬ bridge.canReserve then
    throw (.missingExport Wasm.Abi.reserveSpace)
  else if UInt32.size ≤ bytes.length then
    throw (memory.outside 0 bytes.length)
  else
    let length := UInt32.ofNat bytes.length
    let offset ← again.enterWithWords Wasm.Abi.reserveSpace [length]
    Attempt.write offset bytes
    return ⟨offset, length⟩

/-- Put a text where the guest makes room for it. -/
def writeText (again : Reentry) (text : String) : Attempt GuestRange :=
  again.writeBytes (Text.Utf8.encode text)

end Reentry

end WasmBridge
