import WasmBridge.Fault
import WasmBridge.Handle.Basic
import WasmBridge.Text.Outline

/-!
# Tables of handles

A table owns the values that a guest holds handles to.  A released slot is taken
again, the lowest first, under the next generation, so that a handle kept past
its release is told apart from the handle of the value that follows.  Slots 0
and 1 hold the null value and the global object and are never released.
-/

namespace WasmBridge

/-- One slot: how often it was released, modulo 256, and its value if it is
taken. -/
structure Slot (α : Type) where
  generation : UInt8
  value : Option α
deriving DecidableEq

/-- The slots in use so far, and the vacant ones among them in increasing order. -/
structure HandleTable (α : Type) where
  slots : Array (Slot α)
  free : List Nat
deriving DecidableEq

namespace HandleTable

variable {α : Type}

/-- How many slots are pinned. -/
def pinnedCount : Nat := 2

/-- A table of the pinned slots only. -/
def new (null global : α) : HandleTable α :=
  ⟨#[⟨0, some null⟩, ⟨0, some global⟩], []⟩

/-- The greatest number of slots, pinned ones included. -/
def capacity : UInt32 := UInt32.ofNat Handle.slotCount

/-- Put a number among increasing numbers, unless it is there already. -/
def insertSorted (index : Nat) : List Nat → List Nat
  | [] => [index]
  | other :: rest =>
    if index < other then index :: other :: rest
    else if index = other then other :: rest
    else other :: insertSorted index rest

/-- The generation of a slot. -/
def generationAt (table : HandleTable α) (index : Nat) : UInt8 :=
  (table.slots[index]?.map Slot.generation).getD 0

/-- Store a value in the lowest vacant slot and name it. -/
def insert (table : HandleTable α) (value : α) : Except Fault (Handle × HandleTable α) :=
  match table.free with
  | index :: rest =>
    let generation := table.generationAt index
    .ok (Handle.pack (UInt32.ofNat index) generation,
      ⟨table.slots.setIfInBounds index ⟨generation, some value⟩, rest⟩)
  | [] =>
    let index := table.slots.size
    if Handle.slotCount ≤ index then .error (.tableFull capacity)
    else .ok (Handle.pack (UInt32.ofNat index) 0, ⟨table.slots.push ⟨0, some value⟩, []⟩)

/-- The value of a handle.  A pinned slot answers at generation 0 alone. -/
def get (table : HandleTable α) (handle : Handle) : Except Fault α :=
  match table.slots[handle.slot.toNat]? with
  | some ⟨current, some value⟩ =>
    if handle.slot.toNat < pinnedCount ∧ handle.generation ≠ 0 then
      .error (.invalidHandle handle)
    else if current = handle.generation then .ok value
    else .error (.staleHandle handle handle.slot current)
  | _ => .error (.invalidHandle handle)

/-- Vacate the slot of a handle and answer with the value it held.  Nothing
happens for a pinned slot and for a handle that is not live. -/
def release (table : HandleTable α) (handle : Handle) : Option α × HandleTable α :=
  let index := handle.slot.toNat
  if index < pinnedCount then (none, table)
  else match table.slots[index]? with
    | some ⟨current, some value⟩ =>
      if current = handle.generation then
        (some value,
          ⟨table.slots.setIfInBounds index ⟨current + 1, none⟩, insertSorted index table.free⟩)
      else (none, table)
    | _ => (none, table)

/-- Whether a handle has a value. -/
def isLive (table : HandleTable α) (handle : Handle) : Bool :=
  (table.get handle).isOk

/-- The value in the slot of the global object. -/
def global? (table : HandleTable α) : Option α :=
  table.slots[Handle.global.toNat]?.bind Slot.value

/-- How many values are stored beyond the pinned ones. -/
def length (table : HandleTable α) : Nat :=
  table.slots.size - pinnedCount - table.free.length

/-- Whether no value is stored beyond the pinned ones. -/
def isEmpty (table : HandleTable α) : Bool :=
  table.length == 0

/-- A slot in diagnostics. -/
def describeSlot (describe : α → String) (slot : Slot α) : String :=
  Text.Outline.record "Slot" [
    ("generation", toString slot.generation),
    ("value", Text.Outline.option describe slot.value)]

/-- The table in diagnostics. -/
def describe (describeValue : α → String) (table : HandleTable α) : String :=
  Text.Outline.record "ObjectTable" [
    ("slots", Text.Outline.brackets (table.slots.toList.map (describeSlot describeValue))),
    ("free", Text.Outline.braces (table.free.map toString))]

/-- Nothing is stored in a new table. -/
theorem length_new (null global : α) : (new null global).length = 0 := rfl

/-- The null handle of a new table is the null value. -/
theorem get_new_null (null global : α) : (new null global).get Handle.null = .ok null := rfl

/-- The global handle of a new table is the global object. -/
theorem get_new_global (null global : α) : (new null global).get Handle.global = .ok global := rfl

end HandleTable

end WasmBridge
