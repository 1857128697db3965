import WasmBridge.Text.Outline

/-!
# Ranges of guest memory

Where the host left bytes for a guest.
-/

namespace WasmBridge

/-- A stretch of guest memory. -/
structure GuestRange where
  offset : UInt32
  size : UInt32
deriving DecidableEq

namespace GuestRange

/-- The range of nothing. -/
def null : GuestRange := ⟨0, 0⟩

/-- Whether it is the range of nothing. -/
def isNull (range : GuestRange) : Bool :=
  range.offset == 0 && range.size == 0

/-- The address after the last byte, which may lie beyond every word. -/
def finish (range : GuestRange) : Nat :=
  range.offset.toNat + range.size.toNat

/-- The range in diagnostics. -/
def describe (range : GuestRange) : String :=
  Text.Outline.record "WasmPtr" [
    ("offset", toString range.offset),
    ("size", toString range.size)]

/-- A range is null when it is the null range. -/
theorem isNull_iff (range : GuestRange) : range.isNull = true ↔ range = null := by
  cases range
  simp [isNull, null]

end GuestRange

end WasmBridge
