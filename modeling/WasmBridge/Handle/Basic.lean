/-!
# Handles

A guest names host values by 32-bit handles.  The low 24 bits of a handle are
the slot of the value and the high 8 bits the generation of the slot at the time
the value was stored.  Handle 0 is the null value and handle 1 the global
object.
-/

namespace WasmBridge

/-- The name of a host value in a guest. -/
abbrev Handle := UInt32

namespace Handle

/-- How many slots a handle can name. -/
def slotCount : Nat := 0x1000000

/-- The handle of no value. -/
def null : Handle := 0

/-- The handle of the global object. -/
def global : Handle := 1

/-- The handle of a slot at a generation; only the low 24 bits of the slot count. -/
def pack (slot : UInt32) (generation : UInt8) : Handle :=
  generation.toUInt32 <<< 24 ||| slot &&& 0xFFFFFF

/-- The slot of a handle. -/
def slot (handle : Handle) : UInt32 := handle &&& 0xFFFFFF

/-- The generation of a handle. -/
def generation (handle : Handle) : UInt8 := (handle >>> 24).toUInt8

end Handle

end WasmBridge
