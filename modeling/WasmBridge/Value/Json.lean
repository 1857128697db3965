import WasmBridge.Json.Basic
import WasmBridge.Value.Basic

/-!
# Host values and JSON

`Heap.ofJson` makes the objects of a JSON value; an array becomes an object with
one property an item, named by its place, and the property `length`.
`Heap.toJson` unfolds a value along references.  A reference to an object that
is being unfolded already is written as a fixed text, so unfolding ends on any
heap; an object met again on another path is unfolded again.
-/

namespace WasmBridge.Heap

/-- What stands for an object inside itself. -/
def circular : String := "[circular]"

/-- How many objects are not on a path. -/
def unopened (heap : Heap) (path : List ObjectId) : Nat :=
  ((List.range heap.objects.size).filter fun id => !path.contains id).length

/-- Opening an object leaves fewer unopened. -/
theorem unopened_cons_lt {heap : Heap} {path : List ObjectId} {id : ObjectId}
    (present : id < heap.objects.size) (fresh : path.contains id = false) :
    heap.unopened (id :: path) < heap.unopened path := by
  have split : ∀ ids : List ObjectId,
      (ids.filter fun other => !(id :: path).contains other)
        = (ids.filter fun other => !path.contains other).filter fun other => other != id := by
    intro ids
    rw [List.filter_filter]
    congr 1
    funext other
    simp only [List.contains_cons, Bool.not_or]
    rfl
  unfold unopened
  rw [split, ← List.countP_eq_length_filter]
  refine Nat.lt_of_le_of_ne List.countP_le_length fun same => ?_
  have all := List.countP_eq_length.mp same id
    (List.mem_filter.mpr ⟨List.mem_range.mpr present, by rw [fresh]; rfl⟩)
  simp at all

/-- The unfolding of a value met below the objects of a path. -/
def toJsonBelow (heap : Heap) (path : List ObjectId) : HostValue → Json
  | .null => .null
  | .bool value => .bool value
  | .number value => .ofFloat value
  | .string text => .string text
  | .bytes value => .array (value.map fun byte => .integer byte.toNat)
  | .function _ => .null
  | .object id =>
    if _opened : path.contains id = true then .string circular
    else if _present : id < heap.objects.size then
      .object ((heap.properties id).map fun (name, value) =>
        (name, toJsonBelow heap (id :: path) value))
    else .object []
termination_by heap.unopened path
decreasing_by exact unopened_cons_lt _present (Bool.eq_false_iff.mpr _opened)

/-- The unfolding of a value. -/
def toJson (heap : Heap) (value : HostValue) : Json :=
  heap.toJsonBelow [] value

mutual

/-- The value of a JSON value, and the heap with the objects it needs. -/
def ofJson (heap : Heap) : Json → HostValue × Heap
  | .null => (.null, heap)
  | .bool value => (.bool value, heap)
  | .integer value => (.number (Json.floatOfInt value), heap)
  | .number value => (.number value, heap)
  | .string text => (.string text, heap)
  | .array items =>
    let (id, heap) := heap.allocate
    let heap := heap.setItems id 0 items
    (.object id, heap.set id "length" (.number items.length.toFloat))
  | .object fields =>
    let (id, heap) := heap.allocate
    (.object id, heap.setFields id fields)

/-- Set the properties of an array's items, the first of which has the given
place. -/
def setItems (heap : Heap) (id : ObjectId) (place : Nat) : List Json → Heap
  | [] => heap
  | item :: rest =>
    let (value, heap) := heap.ofJson item
    (heap.set id (toString place) value).setItems id (place + 1) rest

/-- Set the properties of an object's fields. -/
def setFields (heap : Heap) (id : ObjectId) : List (String × Json) → Heap
  | [] => heap
  | (name, field) :: rest =>
    let (value, heap) := heap.ofJson field
    (heap.set id name value).setFields id rest

end

end WasmBridge.Heap
