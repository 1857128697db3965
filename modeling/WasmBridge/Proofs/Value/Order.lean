import WasmBridge.Value.Json

/-!
# Fields in order

Every change of a record keeps its fields in the increasing order of their names, one
field a name; so do the objects of a heap, whichever properties are set and removed and
whatever is read from JSON.
-/

namespace WasmBridge

namespace Fields

variable {α β : Type} {name other : String} {fields : Fields α}

/-- The names increase. -/
def Ordered (fields : Fields α) : Prop :=
  (names fields).Pairwise (· < ·)

theorem mem_names_set {value : α} :
    other ∈ names (set name value fields) ↔ other = name ∨ other ∈ names fields := by
  induction fields with
  | nil => simp [set, names]
  | cons field rest ih =>
      unfold names at ih ⊢
      unfold set
      split
      · simp
      · split
        · next same => simp [same]
        · rw [List.map_cons, List.mem_cons, ih, List.map_cons, List.mem_cons]
          exact or_left_comm

theorem ordered_set (value : α) (ordered : Ordered fields) :
    Ordered (set name value fields) := by
  induction fields with
  | nil => exact List.pairwise_singleton _ _
  | cons field rest ih =>
      obtain ⟨least, tail⟩ := List.pairwise_cons.mp ordered
      unfold set
      split
      · next below =>
          refine List.pairwise_cons.mpr ⟨?_, ordered⟩
          intro later member
          rcases List.mem_cons.mp member with same | member
          · rw [same]
            exact below
          · exact String.lt_trans below (least later member)
      · split
        · next same =>
            subst same
            exact List.pairwise_cons.mpr ⟨least, tail⟩
        · next notBelow different =>
            refine List.pairwise_cons.mpr ⟨?_, ih tail⟩
            intro later member
            rcases mem_names_set.mp member with same | member
            · rw [same]
              exact Std.lt_of_le_of_ne (String.not_lt.mp notBelow) (Ne.symm different)
            · exact least later member

theorem ordered_remove (name : String) (ordered : Ordered fields) :
    Ordered (remove name fields) := by
  have fewer : (names (remove name fields)).Sublist (names fields) := by
    induction fields with
    | nil => exact List.Sublist.refl _
    | cons field rest ih =>
        unfold remove
        split
        · exact List.sublist_cons_self _ _
        · exact (ih (List.pairwise_cons.mp ordered).2).cons_cons _
  exact List.Pairwise.sublist fewer ordered

/-- A field found after every field was replaced is the replaced field. -/
theorem get?_map (change : α → β) (name : String) (fields : Fields α) :
    get? name (fields.map fun (name, value) => (name, change value)) =
      (get? name fields).map change := by
  induction fields with
  | nil => rfl
  | cons field rest ih =>
      unfold get?
      rw [List.map_cons]
      dsimp only
      split
      · rfl
      · exact ih

theorem names_map (change : α → β) (fields : Fields α) :
    names (fields.map fun (name, value) => (name, change value)) = names fields := by
  unfold names
  rw [List.map_map]
  rfl

theorem exists_get?_of_mem {name : String} (member : name ∈ names fields) :
    ∃ value, get? name fields = some value := by
  induction fields with
  | nil => cases member
  | cons field rest ih =>
      unfold get?
      by_cases same : name = field.1
      · exact ⟨field.2, if_pos same⟩
      · rw [if_neg same]
        exact ih ((List.mem_cons.mp member).resolve_left same)

theorem mem_of_get? {value : α} (found : get? name fields = some value) :
    (name, value) ∈ fields := by
  induction fields with
  | nil => cases found
  | cons field rest ih =>
      unfold get? at found
      split at found
      · next same =>
          cases found
          rw [same]
          exact List.mem_cons_self
      · exact List.mem_cons_of_mem _ (ih found)

/-- Ordered fields are settled by their names and by what is found under each. -/
theorem eq_of_names_of_get? {left right : Fields α} (ordered : Ordered left)
    (names_eq : names left = names right)
    (found : ∀ name, name ∈ names left → get? name left = get? name right) : left = right := by
  induction left generalizing right with
  | nil =>
      cases right with
      | nil => rfl
      | cons field rest => cases names_eq
  | cons field rest ih =>
      cases right with
      | nil => cases names_eq
      | cons other others =>
          obtain ⟨name, value⟩ := field
          obtain ⟨otherName, otherValue⟩ := other
          obtain ⟨same, tails⟩ := List.cons.inj names_eq
          obtain ⟨least, tail⟩ := List.pairwise_cons.mp ordered
          dsimp only at same least
          subst same
          have first := found name List.mem_cons_self
          simp only [get?, if_pos] at first
          rw [Option.some.inj first, ih tail tails ?_]
          intro later member
          have different : later ≠ name := by
            rintro rfl
            exact String.lt_irrefl _ (least _ member)
          have equal := found later (List.mem_cons_of_mem _ member)
          simpa only [get?, if_neg different] using equal

end Fields

namespace Heap

/-- Every object has its properties in order. -/
def Ordered (heap : Heap) : Prop :=
  ∀ id, Fields.Ordered (heap.properties id)

variable {heap : Heap}

theorem ordered_empty : Ordered {} :=
  fun _ => List.Pairwise.nil

theorem properties_allocate (heap : Heap) (id : ObjectId) :
    heap.allocate.2.properties id = heap.properties id := by
  simp only [Heap.properties, allocate, Array.getD_eq_getD_getElem?, Array.getElem?_push]
  split
  · next last => rw [last, Array.getElem?_eq_none (Nat.le_refl _)]; rfl
  · rfl

theorem ordered_allocate (ordered : heap.Ordered) : heap.allocate.2.Ordered := by
  intro id
  rw [properties_allocate]
  exact ordered id

theorem ordered_modify {change : Properties → Properties} (id : ObjectId)
    (keeps : ∀ properties, Fields.Ordered properties → Fields.Ordered (change properties))
    (ordered : heap.Ordered) : Ordered ⟨heap.objects.modify id change⟩ := by
  intro other
  have old := ordered other
  unfold Heap.properties at old ⊢
  rw [Array.getD_eq_getD_getElem?] at old ⊢
  rw [Array.getElem?_modify]
  split
  · cases found : heap.objects[other]? with
    | none => exact List.Pairwise.nil
    | some properties =>
        rw [found] at old
        exact keeps properties old
  · exact old

theorem ordered_setProperty (id : ObjectId) (name : String) (value : HostValue)
    (ordered : heap.Ordered) : (heap.set id name value).Ordered :=
  ordered_modify id (fun _ => Fields.ordered_set value) ordered

theorem ordered_removeProperty (id : ObjectId) (name : String) (ordered : heap.Ordered) :
    (heap.remove id name).Ordered :=
  ordered_modify id (fun _ => Fields.ordered_remove name) ordered

mutual

theorem ordered_ofJson {heap : Heap} (ordered : heap.Ordered) :
    ∀ json : Json, (heap.ofJson json).2.Ordered
  | .null => ordered
  | .bool _ => ordered
  | .integer _ => ordered
  | .number _ => ordered
  | .string _ => ordered
  | .array items => by
    unfold ofJson
    exact ordered_setProperty _ _ _ (ordered_setItems (ordered_allocate ordered) _ _ items)
  | .object fields => by
    unfold ofJson
    exact ordered_setFields (ordered_allocate ordered) _ fields

theorem ordered_setItems {heap : Heap} (ordered : heap.Ordered) (id : ObjectId) (place : Nat) :
    ∀ items : List Json, (heap.setItems id place items).Ordered
  | [] => ordered
  | item :: rest => by
    unfold setItems
    exact ordered_setItems (ordered_setProperty _ _ _ (ordered_ofJson ordered item)) _ _ rest

theorem ordered_setFields {heap : Heap} (ordered : heap.Ordered) (id : ObjectId) :
    ∀ fields : List (String × Json), (heap.setFields id fields).Ordered
  | [] => ordered
  | (name, field) :: rest => by
    unfold setFields
    exact ordered_setFields (ordered_setProperty _ _ _ (ordered_ofJson ordered field)) _ rest

end

end Heap

end WasmBridge
