import Std.Data.TreeMap
import WasmBridge.Fault
import WasmBridge.Wire.Words

/-!
# Linear memory

The memory of a guest is a number of pages of bytes, all 0 at first, that may
grow up to a limit and never shrinks.  Only the bytes that were ever written are
kept.  The host reads and writes stretches: a stretch that does not fit is
refused as a whole.
-/

namespace WasmBridge

/-- How many bytes a page has. -/
def pageSize : Nat := 65536

/-- A memory of a guest. -/
structure LinearMemory where
  /-- The size in pages. -/
  pages : Nat
  /-- The size in pages up to which the memory may grow. -/
  limit : Nat
  /-- The bytes that were written, by address. -/
  written : Std.TreeMap Nat UInt8 := {}

namespace LinearMemory

/-- The size in bytes. -/
def size (memory : LinearMemory) : Nat :=
  memory.pages * pageSize

/-- The byte at an address. -/
def byteAt (memory : LinearMemory) (address : Nat) : UInt8 :=
  memory.written.getD address 0

/-- Whether a stretch fits into the memory. -/
def fits (memory : LinearMemory) (offset length : Nat) : Bool :=
  offset + length ≤ memory.size

/-- The bytes of a stretch. -/
def slice (memory : LinearMemory) (offset length : Nat) : Bytes :=
  (List.range' offset length).map memory.byteAt

/-- Put bytes one after the other, the first at the given address. -/
def put (memory : LinearMemory) (address : Nat) : Bytes → LinearMemory
  | [] => memory
  | byte :: rest =>
    put { memory with written := memory.written.insert address byte } (address + 1) rest

/-- The fault of a stretch that does not fit. -/
def outside (memory : LinearMemory) (offset length : Nat) : Fault :=
  .outOfBounds offset length memory.size

/-- Refuse a stretch that does not fit. -/
def check (memory : LinearMemory) (offset length : Nat) : Except Fault Unit :=
  if memory.fits offset length then .ok () else .error (memory.outside offset length)

/-- The bytes of a stretch, as the engine reads them: the stretch begins within the
memory or at its end, and what follows is long enough. -/
def slice? (memory : LinearMemory) (offset length : Nat) : Option Bytes :=
  if offset ≤ memory.size ∧ length ≤ memory.size - offset then
    some (memory.slice offset length)
  else none

/-- Put bytes as the engine writes them, under the same condition. -/
def put? (memory : LinearMemory) (offset : Nat) (bytes : Bytes) : Option LinearMemory :=
  if offset ≤ memory.size ∧ bytes.length ≤ memory.size - offset then
    some (memory.put offset bytes)
  else none

/-- Add pages, unless the limit is passed: the size before and the grown
memory. -/
def grow? (memory : LinearMemory) (pages : Nat) : Option (Nat × LinearMemory) :=
  if memory.pages + pages ≤ memory.limit then
    some (memory.pages, { memory with pages := memory.pages + pages })
  else none

/-- The word at an address. -/
def wordAt? (memory : LinearMemory) (address : UInt32) : Option UInt32 :=
  if memory.fits address.toNat 4 then
    (Wire.groupWords (memory.slice address.toNat 4)).head?
  else none

/-- Put a word at an address. -/
def putWord? (memory : LinearMemory) (address word : UInt32) : Option LinearMemory :=
  if memory.fits address.toNat 4 then
    some (memory.put address.toNat (Wire.encodeWord word))
  else none

/-- Putting bytes does not change the size. -/
theorem size_put (memory : LinearMemory) (address : Nat) (bytes : Bytes) :
    (memory.put address bytes).size = memory.size := by
  induction bytes generalizing memory address with
  | nil => rfl
  | cons byte rest ih => rw [put, ih]; rfl

end LinearMemory

end WasmBridge
