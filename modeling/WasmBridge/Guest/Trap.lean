import WasmBridge.Wasm.Type

/-!
# Traps

Why the code of a guest stops before it returns.  A trap ends the call that the
host made, not the host.
-/

namespace WasmBridge.Guest

/-- Why code stops. -/
inductive Trap where
  /-- The code asked for it. -/
  | unreachable
  /-- A word was loaded or stored outside the memory. -/
  | outOfBounds
  /-- A stub was called whose results no host can make up. -/
  | noDefault (qualified : String) (type : Wasm.ValueType)
  /-- A function was called that is not there. -/
  | noFunction (target : String)
  /-- Calls were nested too deep. -/
  | exhausted
deriving DecidableEq

/-- The wording of a trap. -/
def Trap.text : Trap → String
  | unreachable => "wasm trap: unreachable instruction executed"
  | outOfBounds => "wasm trap: out of bounds memory access"
  | noDefault qualified type =>
    s!"stub for {qualified} cannot produce a default {type.describe}"
  | noFunction target => s!"wasm trap: no function {target}"
  | exhausted => "wasm trap: call stack exhausted"

end WasmBridge.Guest
