import WasmBridge.Proofs.Handle.Resolution

/-!
# What a table holds

The values beyond the pinned slots are values that were inserted.  An insertion changes
what its own handle resolves to and nothing else.
-/

namespace WasmBridge.HandleTable

variable {α : Type} {null global value : α} {table next : HandleTable α} {handle : Handle}
  {kind : α → Prop}

/-- There are slots for so many values more. -/
def HasRoom (table : HandleTable α) (count : Nat) : Prop :=
  pinnedCount + table.length + count ≤ Handle.slotCount

/-- A value for which there is room is stored. -/
theorem insert_of_room {count : Nat} (wf : WellFormed null global table)
    (room : table.HasRoom (count + 1)) (value : α) :
    ∃ handle next, table.insert value = .ok (handle, next) ∧ next.HasRoom count := by
  have counted := wf.length_eq_occupied
  unfold HasRoom HandleTable.length at room ⊢
  unfold insert
  cases vacant : table.free with
  | cons index rest =>
      rw [vacant, List.length_cons] at counted room
      refine ⟨_, _, rfl, ?_⟩
      dsimp only
      rw [Array.size_setIfInBounds]
      omega
  | nil =>
      rw [vacant, List.length_nil] at counted room
      have below : ¬ Handle.slotCount ≤ table.slots.size := by omega
      dsimp only
      rw [if_neg below]
      refine ⟨_, _, rfl, ?_⟩
      rw [Array.size_push, List.length_nil]
      omega

/-- Every value beyond the pinned slots is of some kind. -/
def Unpinned (kind : α → Prop) (table : HandleTable α) : Prop :=
  ∀ index generation value, pinnedCount ≤ index →
    table.slots[index]? = some ⟨generation, some value⟩ → kind value

namespace Unpinned

theorem of_new (null global : α) : (new null global).Unpinned kind := by
  intro index generation value unpinned found
  have outside : (new null global).slots.size ≤ index := unpinned
  rw [Array.getElem?_eq_none outside] at found
  cases found

/-- A call that inserts nothing of another kind keeps the values of that kind. -/
theorem step (wf : WellFormed null global table) (all : table.Unpinned kind) (call : Call α)
    (suits : ∀ value answer, (table.step call).1 = .inserted value answer → kind value) :
    (table.step call).2.Unpinned kind := by
  intro index generation held unpinned found
  rcases step_cases wf call with
    ⟨value, handle, event, stored⟩ | ⟨handle, value, -, freed⟩ | ⟨same, -⟩
  · rw [stored.slots] at found
    split at found
    · cases found
      exact suits _ _ event
    · exact all index generation held unpinned found
  · rw [freed.slots] at found
    split at found
    · cases found
    · exact all index generation held unpinned found
  · rw [same] at found
    exact all index generation held unpinned found

/-- So does every run. -/
theorem run (wf : WellFormed null global table) (all : table.Unpinned kind)
    {calls : List (Call α)}
    (suits : ∀ value answer, .inserted value answer ∈ (table.run calls).1 → kind value) :
    (table.run calls).2.Unpinned kind := by
  induction calls generalizing table with
  | nil => exact all
  | cons call rest ih =>
      refine ih (wf.step call) (all.step wf call fun value answer event => ?_) ?_
      · exact suits value answer (List.mem_cons.mpr (Or.inl event.symm))
      · intro value answer member
        exact suits value answer (List.mem_cons_of_mem _ member)

end Unpinned

namespace Stored

variable (stored : Stored table value handle next)
include stored

/-- A handle that is given out was not live. -/
theorem isLive (wf : WellFormed null global table) : table.isLive handle = false := by
  unfold HandleTable.isLive
  cases looked : table.get handle with
  | error fault => rfl
  | ok held => exact absurd ((get_eq_ok_iff wf).mp looked) (wf.place?_vacant stored.place)

/-- An insertion changes what its own handle resolves to and nothing else. -/
theorem get_eq_ok_iff (wf : WellFormed null global table) {other : Handle} {held : α} :
    next.get other = .ok held ↔
      if other = handle then held = value else table.get other = .ok held := by
  rw [HandleTable.get_eq_ok_iff (wf.of_stored stored)]
  by_cases same : other = handle
  · rw [if_pos same, same, Holds, stored.slots, if_pos rfl]
    simp [eq_comm]
  · rw [if_neg same, HandleTable.get_eq_ok_iff wf, Holds, stored.slots]
    split
    next slots =>
      constructor
      · intro found
        have generations := congrArg Slot.generation (Option.some.inj found)
        exact absurd (Handle.eq_of_slot_of_generation slots generations.symm) same
      · intro found
        rw [Holds, slots] at found
        exact absurd found (wf.place?_vacant stored.place)
    · rfl

end Stored

end WasmBridge.HandleTable
