import WasmBridge.Handle.Table
import WasmBridge.Proofs.Handle.Pack

/-!
# What the operations of a table do

A table keeps twice which slots are vacant: in the slots and in the list of
vacant ones.  `WellFormed` says that both agree, `Stored` and `Freed` say what an
insertion and a release change, slot by slot.
-/

namespace WasmBridge.HandleTable

variable {α : Type} {null global value : α} {table next : HandleTable α} {handle : Handle}

/-- The pinned slots are as they were made, no slot is beyond every handle, and the
list of vacant slots is in order and complete. -/
structure WellFormed (null global : α) (table : HandleTable α) : Prop where
  null_slot : table.slots[0]? = some ⟨0, some null⟩
  global_slot : table.slots[1]? = some ⟨0, some global⟩
  size_le : table.slots.size ≤ Handle.slotCount
  mem_free_iff : ∀ index, index ∈ table.free ↔
    pinnedCount ≤ index ∧ ∃ generation, table.slots[index]? = some ⟨generation, none⟩
  free_sorted : table.free.Pairwise (· < ·)

/-- The slot of a handle holds a value at the generation of the handle. -/
def Holds (table : HandleTable α) (handle : Handle) (value : α) : Prop :=
  table.slots[handle.slot.toNat]? = some ⟨handle.generation, some value⟩

/-- The slot that the next value is stored in, unless the table is full. -/
def place? (table : HandleTable α) : Option Nat :=
  match table.free with
  | index :: _ => some index
  | [] => if Handle.slotCount ≤ table.slots.size then none else some table.slots.size

/-- What it means that a value was stored under a handle. -/
structure Stored (table : HandleTable α) (value : α) (handle : Handle)
    (next : HandleTable α) : Prop where
  place : table.place? = some handle.slot.toNat
  generation : handle.generation = table.generationAt handle.slot.toNat
  slots : ∀ index, next.slots[index]? =
    if index = handle.slot.toNat then some ⟨handle.generation, some value⟩
    else table.slots[index]?
  free : next.free = table.free.tail

/-- What it means that a handle was released. -/
structure Freed (table : HandleTable α) (handle : Handle) (value : α)
    (next : HandleTable α) : Prop where
  unpinned : pinnedCount ≤ handle.slot.toNat
  held : table.Holds handle value
  slots : ∀ index, next.slots[index]? =
    if index = handle.slot.toNat then some ⟨handle.generation + 1, none⟩
    else table.slots[index]?
  free : next.free = insertSorted handle.slot.toNat table.free

/-! ## Vacant slots -/

theorem mem_insertSorted {index other : Nat} {free : List Nat} :
    other ∈ insertSorted index free ↔ other = index ∨ other ∈ free := by
  induction free with
  | nil => simp [insertSorted]
  | cons first rest ih =>
      unfold insertSorted
      split
      · exact List.mem_cons
      · split
        · next same =>
            rw [same, List.mem_cons]
            simp
        · rw [List.mem_cons, List.mem_cons, ih]
          exact or_left_comm

theorem insertSorted_sorted {index : Nat} {free : List Nat}
    (sorted : free.Pairwise (· < ·)) : (insertSorted index free).Pairwise (· < ·) := by
  induction free with
  | nil => exact List.pairwise_singleton _ _
  | cons first rest ih =>
      obtain ⟨least, tail⟩ := List.pairwise_cons.mp sorted
      unfold insertSorted
      split
      · next below =>
          refine List.pairwise_cons.mpr ⟨?_, sorted⟩
          intro other member
          rcases List.mem_cons.mp member with same | later
          · rw [same]
            exact below
          · exact Nat.lt_trans below (least other later)
      · split
        · exact sorted
        · next notBelow notSame =>
            refine List.pairwise_cons.mpr ⟨?_, ih tail⟩
            intro other member
            rcases mem_insertSorted.mp member with same | later
            · omega
            · exact least other later

/-- The next slot is the lowest vacant one if there is any. -/
theorem place?_eq_some {index : Nat} (taken : table.place? = some index) :
    (∃ rest, table.free = index :: rest) ∨
      (table.free = [] ∧ index = table.slots.size ∧ index < Handle.slotCount) := by
  unfold place? at taken
  cases vacant : table.free with
  | cons first rest =>
      rw [vacant] at taken
      cases taken
      exact Or.inl ⟨rest, rfl⟩
  | nil =>
      rw [vacant] at taken
      dsimp only at taken
      split at taken
      · cases taken
      · next room =>
          cases taken
          exact Or.inr ⟨rfl, rfl, Nat.lt_of_not_le room⟩

namespace WellFormed

variable {index : Nat}

theorem pinned_slot (wf : WellFormed null global table) (pinned : index < pinnedCount) :
    ∃ value, table.slots[index]? = some ⟨0, some value⟩ := by
  have cases : index = 0 ∨ index = 1 := by
    unfold pinnedCount at pinned
    omega
  rcases cases with rfl | rfl
  · exact ⟨null, wf.null_slot⟩
  · exact ⟨global, wf.global_slot⟩

theorem pinnedCount_le_size (wf : WellFormed null global table) :
    pinnedCount ≤ table.slots.size := by
  obtain ⟨bound, -⟩ := Array.getElem?_eq_some_iff.mp wf.global_slot
  exact bound

theorem lt_size_of_mem_free (wf : WellFormed null global table) (member : index ∈ table.free) :
    index < table.slots.size := by
  obtain ⟨-, generation, vacant⟩ := (wf.mem_free_iff index).mp member
  obtain ⟨bound, -⟩ := Array.getElem?_eq_some_iff.mp vacant
  exact bound

/-- The next slot is unpinned and within reach of a handle. -/
theorem place?_bounds (wf : WellFormed null global table) (taken : table.place? = some index) :
    pinnedCount ≤ index ∧ index ≤ table.slots.size ∧ index < Handle.slotCount := by
  rcases place?_eq_some taken with ⟨rest, vacant⟩ | ⟨-, fresh, room⟩
  · have member : index ∈ table.free := by
      rw [vacant]
      exact List.mem_cons_self
    have bound := wf.lt_size_of_mem_free member
    exact ⟨((wf.mem_free_iff index).mp member).1, Nat.le_of_lt bound,
      Nat.lt_of_lt_of_le bound wf.size_le⟩
  · exact ⟨fresh ▸ wf.pinnedCount_le_size, Nat.le_of_eq fresh, room⟩

/-- The next slot holds no value. -/
theorem place?_vacant (wf : WellFormed null global table) (taken : table.place? = some index)
    {generation : UInt8} {value : α} :
    table.slots[index]? ≠ some ⟨generation, some value⟩ := by
  intro occupied
  rcases place?_eq_some taken with ⟨rest, vacant⟩ | ⟨-, fresh, -⟩
  · have member : index ∈ table.free := by
      rw [vacant]
      exact List.mem_cons_self
    obtain ⟨-, other, empty⟩ := (wf.mem_free_iff index).mp member
    rw [empty] at occupied
    cases occupied
  · obtain ⟨bound, -⟩ := Array.getElem?_eq_some_iff.mp occupied
    omega

end WellFormed

/-! ## Storing -/

/-- A full table refuses every value. -/
theorem insert_of_full (full : table.place? = none) (value : α) :
    table.insert value = .error (.tableFull capacity) := by
  unfold place? at full
  unfold insert
  cases vacant : table.free with
  | cons first rest =>
      rw [vacant] at full
      cases full
  | nil =>
      rw [vacant] at full
      dsimp only at full ⊢
      split at full
      · next filled => rw [if_pos filled]
      · cases full

/-- A table that is not full stores every value, under the slot that is next. -/
theorem insert_of_place (wf : WellFormed null global table) {index : Nat}
    (taken : table.place? = some index) (value : α) :
    ∃ next, table.insert value =
        .ok (Handle.pack (UInt32.ofNat index) (table.generationAt index), next) ∧
      Stored table value (Handle.pack (UInt32.ofNat index) (table.generationAt index)) next := by
  obtain ⟨-, -, bound⟩ := wf.place?_bounds taken
  rcases place?_eq_some taken with ⟨rest, vacant⟩ | ⟨vacant, fresh, room⟩
  · have member : index ∈ table.free := by
      rw [vacant]
      exact List.mem_cons_self
    have inside := wf.lt_size_of_mem_free member
    refine ⟨⟨table.slots.setIfInBounds index ⟨table.generationAt index, some value⟩, rest⟩,
      ?_, ?_⟩
    · unfold insert
      rw [vacant]
    · constructor
      · rw [taken, Handle.slot_pack bound]
      · rw [Handle.slot_pack bound, Handle.generation_pack]
      · intro other
        rw [Handle.slot_pack bound, Handle.generation_pack]
        by_cases same : other = index
        · rw [same, if_pos rfl, Array.getElem?_setIfInBounds_self_of_lt inside]
        · rw [if_neg same, Array.getElem?_setIfInBounds_ne (Ne.symm same)]
      · rw [vacant]
        rfl
  · have unused : table.generationAt index = 0 := by
      rw [fresh]
      simp [generationAt]
    refine ⟨⟨table.slots.push ⟨0, some value⟩, []⟩, ?_, ?_⟩
    · unfold insert
      rw [vacant, unused, fresh]
      dsimp only
      rw [if_neg (Nat.not_le_of_lt (fresh ▸ room))]
    · constructor
      · rw [taken, Handle.slot_pack bound]
      · rw [Handle.slot_pack bound, Handle.generation_pack]
      · intro other
        rw [Handle.slot_pack bound, Handle.generation_pack, unused, Array.getElem?_push, fresh]
      · rw [vacant]
        rfl

/-- An insertion that answers with a handle stored the value under it. -/
theorem stored_of_insert (wf : WellFormed null global table)
    (inserted : table.insert value = .ok (handle, next)) : Stored table value handle next := by
  cases taken : table.place? with
  | none =>
      rw [insert_of_full taken value] at inserted
      cases inserted
  | some index =>
      obtain ⟨after, answer, stored⟩ := insert_of_place wf taken value
      rw [answer] at inserted
      cases inserted
      exact stored

/-! ## Releasing -/

/-- A release answers with a value exactly when the handle is unpinned and live. -/
theorem release_eq_some_iff :
    (table.release handle).1 = some value ↔
      pinnedCount ≤ handle.slot.toNat ∧ table.Holds handle value := by
  unfold release Holds
  dsimp only
  split
  · next pinned =>
      constructor
      · intro impossible
        cases impossible
      · intro ⟨unpinned, _⟩
        exact absurd unpinned (Nat.not_le_of_lt pinned)
  · next unpinned =>
      have reach : pinnedCount ≤ handle.slot.toNat := Nat.le_of_not_lt unpinned
      cases found : table.slots[handle.slot.toNat]? with
      | none => simp
      | some slot =>
          obtain ⟨current, content⟩ := slot
          cases content with
          | none => simp
          | some held =>
              dsimp only
              split
              · next same => simp [reach, same]
              · next other => simp [other]

/-- A release that answers with no value changes nothing. -/
theorem release_of_none (refused : (table.release handle).1 = none) :
    (table.release handle).2 = table := by
  unfold release at refused ⊢
  dsimp only at refused ⊢
  split at refused
  · next pinned => rw [if_pos pinned]
  · next unpinned =>
      rw [if_neg unpinned]
      split at refused
      · next current held found =>
          split at refused
          · cases refused
          · next other => rw [if_neg other]
      · rfl

/-- A release that answers with a value vacates the slot of the handle. -/
theorem freed_of_release (released : (table.release handle).1 = some value) :
    Freed table handle value (table.release handle).2 := by
  obtain ⟨unpinned, held⟩ := release_eq_some_iff.mp released
  obtain ⟨inside, -⟩ := Array.getElem?_eq_some_iff.mp held
  have after : (table.release handle).2 =
      ⟨table.slots.setIfInBounds handle.slot.toNat ⟨handle.generation + 1, none⟩,
        insertSorted handle.slot.toNat table.free⟩ := by
    unfold release
    dsimp only
    rw [if_neg (Nat.not_lt_of_le unpinned), held]
    dsimp only
    rw [if_pos rfl]
  rw [after]
  refine ⟨unpinned, held, ?_, rfl⟩
  intro index
  dsimp only
  by_cases same : index = handle.slot.toNat
  · rw [same, if_pos rfl, Array.getElem?_setIfInBounds_self_of_lt inside]
  · rw [if_neg same, Array.getElem?_setIfInBounds_ne (Ne.symm same)]

end WasmBridge.HandleTable
