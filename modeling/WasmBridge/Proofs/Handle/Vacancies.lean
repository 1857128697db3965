import Mathlib.Data.List.Sort
import Mathlib.Data.Nat.Nth
import WasmBridge.Proofs.Handle.Reuse

/-!
# Which slots are vacant

A table is settled by its slots, and a release changes the slot of its handle alone; so
handles may be released in any order.  Of the slots that are vacant then, those past the end
of the table among them, values take one after the other, the lowest first, until the next
one is beyond every handle.
-/

namespace WasmBridge

/-- A slot after the release of a handle with this generation. -/
def Slot.vacated {α : Type} (generation : UInt8) : Slot α → Slot α
  | ⟨current, some value⟩ =>
    if current = generation then ⟨current + 1, none⟩ else ⟨current, some value⟩
  | ⟨current, none⟩ => ⟨current, none⟩

/-- Of two releases of a slot, at most one finds its generation. -/
theorem Slot.vacated_comm {α : Type} (first second : UInt8) (slot : Slot α) :
    (slot.vacated first).vacated second = (slot.vacated second).vacated first := by
  obtain ⟨current, content⟩ := slot
  cases content with
  | none => rfl
  | some value =>
      by_cases early : current = first
      · by_cases late : current = second
        · rw [← early, ← late]
        · simp [vacated, early, early ▸ late]
      · by_cases late : current = second
        · simp [vacated, late, late ▸ early]
        · simp [vacated, early, late]

namespace HandleTable

variable {α : Type} {null global value : α} {table next : HandleTable α} {handle : Handle}
  {index : Nat}

/-! ## Releases in any order -/

/-- Which slots are vacant is told by the slots. -/
theorem WellFormed.eq_of_slots {left right : HandleTable α} (wf : WellFormed null global left)
    (other : WellFormed null global right)
    (same : ∀ index : Nat, left.slots[index]? = right.slots[index]?) : left = right := by
  obtain ⟨slots, free⟩ := left
  obtain ⟨slots', free'⟩ := right
  obtain rfl : slots = slots' := Array.ext_getElem? same
  have vacant : free = free' :=
    wf.free_sorted.eq_of_mem_iff other.free_sorted fun index =>
      (wf.mem_free_iff index).trans (other.mem_free_iff index).symm
  rw [vacant]

theorem WellFormed.release (wf : WellFormed null global table) (handle : Handle) :
    WellFormed null global (table.release handle).2 :=
  wf.step (.release handle)

/-- A release changes the slot of its handle alone, and that only if it is not pinned. -/
theorem slots_release (table : HandleTable α) (handle : Handle) (index : Nat) :
    (table.release handle).2.slots[index]? =
      if index = handle.slot.toNat ∧ pinnedCount ≤ index then
        table.slots[index]?.map (Slot.vacated handle.generation)
      else table.slots[index]? := by
  cases answer : (table.release handle).1 with
  | some value =>
      have freed := freed_of_release answer
      rw [freed.slots]
      by_cases same : index = handle.slot.toNat
      · rw [same, if_pos rfl, if_pos ⟨rfl, freed.unpinned⟩, freed.held]
        simp [Slot.vacated]
      · rw [if_neg same, if_neg fun both => same both.1]
  | none =>
      rw [release_of_none answer]
      split
      next both =>
        obtain ⟨rfl, unpinned⟩ := both
        cases found : table.slots[handle.slot.toNat]? with
        | none => rfl
        | some slot =>
            obtain ⟨current, content⟩ := slot
            cases content with
            | none => rfl
            | some value =>
                have other : current ≠ handle.generation := by
                  rintro rfl
                  have impossible := release_eq_some_iff.mpr ⟨unpinned, found⟩
                  rw [answer] at impossible
                  cases impossible
                simp [Slot.vacated, other]
      next => rfl

/-- Two releases may be exchanged, also two of one slot. -/
theorem release_comm (wf : WellFormed null global table) (first second : Handle) :
    ((table.release first).2.release second).2 = ((table.release second).2.release first).2 := by
  refine ((wf.release first).release second).eq_of_slots ((wf.release second).release first)
    fun index => ?_
  simp only [slots_release]
  split
  next late =>
    split
    next early =>
      rw [Option.map_map, Option.map_map]
      congr 1
      funext slot
      exact Slot.vacated_comm _ _ slot
    next => rfl
  next => rfl

/-- Handles may be released in any order. -/
theorem run_release_perm (wf : WellFormed null global table) {first second : List Handle}
    (perm : first.Perm second) :
    (table.run (first.map .release)).2 = (table.run (second.map .release)).2 := by
  induction perm generalizing table with
  | nil => rfl
  | cons handle _ ih => exact ih (wf.release handle)
  | swap early late rest =>
      have exchanged := release_comm wf late early
      exact congrArg (fun table => (HandleTable.run table (rest.map .release)).2) exchanged
  | trans _ _ ih_first ih_second => exact (ih_first wf).trans (ih_second wf)

/-! ## Vacant slots -/

/-- A slot that is not pinned is vacant when it holds no value; so are the slots past the
end of the table. -/
def Vacant (table : HandleTable α) (index : Nat) : Prop :=
  pinnedCount ≤ index ∧ ¬ table.Occupied index

theorem vacant_iff (wf : WellFormed null global table) :
    table.Vacant index ↔ index ∈ table.free ∨ table.slots.size ≤ index := by
  have bound := wf.pinnedCount_le_size
  rw [wf.mem_free_iff]
  unfold Vacant Occupied
  cases found : table.slots[index]? with
  | none =>
      have outside := Array.getElem?_eq_none_iff.mp found
      simp
      omega
  | some slot =>
      obtain ⟨inside, -⟩ := Array.getElem?_eq_some_iff.mp found
      obtain ⟨generation, content⟩ := slot
      cases content <;> simp [Nat.not_le_of_lt inside]

theorem infinite_vacant (wf : WellFormed null global table) :
    (Set.ofPred table.Vacant).Infinite := by
  refine Set.infinite_of_not_bddAbove fun ⟨bound, bounds⟩ => ?_
  have past : table.Vacant (max table.slots.size (bound + 1)) :=
    (vacant_iff wf).mpr (.inr (Nat.le_max_left _ _))
  have within : max table.slots.size (bound + 1) ≤ bound := bounds past
  omega

/-- The slot that is next is the lowest vacant one. -/
theorem place?_eq_some_of_least (wf : WellFormed null global table) (vacant : table.Vacant index)
    (least : ∀ other, table.Vacant other → index ≤ other) (reach : index < Handle.slotCount) :
    table.place? = some index := by
  unfold place?
  cases list : table.free with
  | cons first rest =>
      have member : first ∈ table.free := list ▸ List.mem_cons_self
      have below := least first ((vacant_iff wf).mpr (.inl member))
      have sorted := wf.free_sorted
      rw [list] at sorted
      rcases (vacant_iff wf).mp vacant with among | outside
      · rw [list] at among
        rcases List.mem_cons.mp among with same | later
        · rw [same]
        · have := (List.pairwise_cons.mp sorted).1 index later
          omega
      · have inside := wf.lt_size_of_mem_free member
        omega
  | nil =>
      have last := least table.slots.size ((vacant_iff wf).mpr (.inr (Nat.le_refl _)))
      have outside : table.slots.size ≤ index := by
        rcases (vacant_iff wf).mp vacant with among | outside
        · rw [list] at among
          cases among
        · exact outside
      have same : table.slots.size = index := Nat.le_antisymm outside last
      rw [same]
      exact if_neg (Nat.not_le_of_lt reach)

theorem vacant_of_place? (wf : WellFormed null global table)
    (taken : table.place? = some index) : table.Vacant index ∧ index < Handle.slotCount := by
  obtain ⟨unpinned, -, reach⟩ := wf.place?_bounds taken
  exact ⟨⟨unpinned, fun ⟨_, _, found⟩ => wf.place?_vacant taken found⟩, reach⟩

/-- A table is full when no slot that a handle can name is vacant. -/
theorem place?_eq_none_iff (wf : WellFormed null global table) :
    table.place? = none ↔ ∀ index < Handle.slotCount, ¬ table.Vacant index := by
  constructor
  · intro full index reach vacant
    have inhabited : ∃ index, table.Vacant index := ⟨index, vacant⟩
    classical
    have least := Nat.find_min' inhabited vacant
    have taken := place?_eq_some_of_least wf (Nat.find_spec inhabited)
      (fun other => Nat.find_min' inhabited) (Nat.lt_of_le_of_lt least reach)
    rw [full] at taken
    cases taken
  · intro none
    cases taken : table.place? with
    | none => rfl
    | some index =>
        obtain ⟨vacant, reach⟩ := vacant_of_place? wf taken
        exact absurd vacant (none index reach)

theorem Stored.vacant_iff (stored : Stored table value handle next) :
    next.Vacant index ↔ table.Vacant index ∧ index ≠ handle.slot.toNat := by
  unfold Vacant Occupied
  rw [stored.slots]
  by_cases same : index = handle.slot.toNat
  · simp [same]
  · simp [same]

/-! ## Insertions one after the other -/

/-- An insertion into a full table changes nothing. -/
theorem step_insert_of_full (full : table.place? = none) (value : α) :
    table.step (.insert value) = (.inserted value (.error (.tableFull capacity)), table) := by
  simp only [step, insert_of_full full value]

/-- An insertion stores the value in the slot that is next, at the generation of the slot. -/
theorem step_insert_of_place (wf : WellFormed null global table)
    (taken : table.place? = some index) (value : α) :
    let handle := Handle.pack (UInt32.ofNat index) (table.generationAt index)
    (table.step (.insert value)).1 = .inserted value (.ok handle) ∧
      Stored table value handle (table.step (.insert value)).2 := by
  obtain ⟨next, answer, stored⟩ := insert_of_place wf taken value
  simp only [step, answer]
  exact ⟨trivial, stored⟩

theorem generationAt_run_insert (wf : WellFormed null global table) (values : List α)
    (index : Nat) :
    (table.run (values.map .insert)).2.generationAt index = table.generationAt index := by
  induction values generalizing table with
  | nil => rfl
  | cons value values ih =>
      rw [List.map_cons, run_cons_snd, ih (wf.step _)]
      cases taken : table.place? with
      | none => rw [step_insert_of_full taken]
      | some place => exact (step_insert_of_place wf taken value).2.generationAt index

theorem run_insert_concat (table : HandleTable α) (values : List α) (value : α) :
    (table.run ((values ++ [value]).map .insert)).2 =
      ((table.run (values.map .insert)).2.step (.insert value)).2 := by
  rw [List.map_append, run_append]
  rfl

/-- Where only the vacant slots from a certain one on are left, that one is next. -/
theorem place?_of_left {after : HandleTable α} (wf : WellFormed null global table)
    (wf_after : WellFormed null global after) (count : Nat)
    (left : ∀ index, after.Vacant index ↔ table.Vacant index ∧
      (index < Handle.slotCount → Nat.nth table.Vacant count ≤ index)) :
    after.place? = if Nat.nth table.Vacant count < Handle.slotCount then
      some (Nat.nth table.Vacant count) else none := by
  have here : table.Vacant (Nat.nth table.Vacant count) :=
    Nat.nth_mem_of_infinite (infinite_vacant wf) count
  split
  next reach =>
    refine place?_eq_some_of_least wf_after ((left _).mpr ⟨here, fun _ => Nat.le_refl _⟩)
      (fun other vacant => ?_) reach
    by_cases within : other < Handle.slotCount
    · exact ((left other).mp vacant).2 within
    · omega
  next reach =>
    refine (place?_eq_none_iff wf_after).mpr fun other within vacant => ?_
    exact absurd (((left other).mp vacant).2 within) (by omega)

/-- After so many insertions the slots that are left are those from the next one on, and
those that no handle can name. -/
theorem vacant_run_insert_iff (wf : WellFormed null global table) (values : List α) :
    ∀ index, (table.run (values.map .insert)).2.Vacant index ↔ table.Vacant index ∧
      (index < Handle.slotCount → Nat.nth table.Vacant values.length ≤ index) := by
  induction values using List.reverseRecOn with
  | nil =>
      intro index
      refine ⟨fun vacant => ⟨vacant, fun _ => ?_⟩, And.left⟩
      rw [List.length_nil, Nat.nth_zero]
      exact Nat.sInf_le vacant
  | append_singleton values value left =>
      intro index
      have after := wf.run (values.map .insert)
      have ahead : Nat.nth table.Vacant values.length < Nat.nth table.Vacant (values.length + 1) :=
        (Nat.nth_lt_nth (infinite_vacant wf)).mpr (Nat.lt_succ_self _)
      have next := place?_of_left wf after values.length left
      rw [run_insert_concat, List.length_append, List.length_singleton]
      by_cases reach : Nat.nth table.Vacant values.length < Handle.slotCount
      · rw [if_pos reach] at next
        obtain ⟨-, stored⟩ := step_insert_of_place after next value
        rw [stored.vacant_iff, left index, Handle.slot_pack reach]
        constructor
        · rintro ⟨⟨vacant, from_here⟩, other⟩
          refine ⟨vacant, fun within => Nat.le_of_not_lt fun before => ?_⟩
          have passed := Nat.le_nth_of_lt_nth_succ before vacant
          exact other (Nat.le_antisymm passed (from_here within))
        · rintro ⟨vacant, from_next⟩
          refine ⟨⟨vacant, fun within => Nat.le_trans (Nat.le_of_lt ahead) (from_next within)⟩, ?_⟩
          rintro rfl
          exact absurd (from_next reach) (Nat.not_le_of_lt ahead)
      · rw [if_neg reach] at next
        rw [step_insert_of_full next, left index]
        refine and_congr_right fun _ => imp_congr_right fun within => ?_
        omega

/--
Handles may be released in any order: the table is the same.  Values that are inserted
afterwards take the slots that are vacant then, also those past the end of the table, the
lowest first, each at its generation; an insertion is refused, and changes nothing, exactly
when no slot that a handle can name is vacant.
-/
theorem run_release_then_insert (null global : α) (calls : List (Call α))
    {first second : List Handle} (perm : first.Perm second) :
    let table := ((new null global).run calls).2
    let released := (table.run (first.map .release)).2
    (table.run (second.map .release)).2 = released ∧
      ∀ (earlier : List α) (value : α),
        let before := (released.run (earlier.map .insert)).2
        let index := Nat.nth released.Vacant earlier.length
        let handle := Handle.pack (UInt32.ofNat index) (released.generationAt index)
        (index < Handle.slotCount → handle.slot.toNat = index ∧
          (before.step (.insert value)).1 = .inserted value (.ok handle) ∧
          Stored before value handle (before.step (.insert value)).2) ∧
        (before.step (.insert value) = (.inserted value (.error (.tableFull capacity)), before) ↔
          ∀ index < Handle.slotCount, ¬ before.Vacant index) ∧
        (Handle.slotCount ≤ index ↔ ∀ index < Handle.slotCount, ¬ before.Vacant index) := by
  intro table released
  have wf : WellFormed null global released :=
    ((WellFormed.of_new null global).run calls).run (first.map .release)
  refine ⟨(run_release_perm ((WellFormed.of_new null global).run calls) perm).symm, ?_⟩
  intro earlier value before index handle
  have wf_before : WellFormed null global before := wf.run (earlier.map .insert)
  have place : before.place? = if index < Handle.slotCount then some index else none :=
    place?_of_left wf wf_before earlier.length (vacant_run_insert_iff wf earlier)
  rw [← place?_eq_none_iff wf_before, place]
  by_cases reach : index < Handle.slotCount
  · rw [if_pos reach] at place ⊢
    have stores := step_insert_of_place wf_before place value
    have kept : before.generationAt index = released.generationAt index :=
      generationAt_run_insert wf earlier index
    rw [kept] at stores
    refine ⟨fun _ => ⟨Handle.slot_pack reach _, stores⟩, ?_, ?_⟩
    · refine iff_of_false (fun refused => ?_) nofun
      have answer := stores.1
      rw [refused] at answer
      cases answer
    · exact iff_of_false (Nat.not_le_of_lt reach) nofun
  · rw [if_neg reach] at place ⊢
    exact ⟨fun within => absurd within reach,
      iff_of_true (step_insert_of_full place value) rfl, iff_of_true (Nat.le_of_not_lt reach) rfl⟩

/-- Two generations of slot 2 are released with slot 4 and a pinned slot.  The third of the
values that are inserted then is the first past the end of the table. -/
theorem run_release_then_insert_of_generations :
    let table := ((new HostValue.null (.object 0)).run [.insert (.bool true),
      .insert (.string "kept"), .insert (.bytes [7]), .release 2, .insert (.bool false)]).2
    let released := (table.run ([2, 16777218, 4, 1, 16777218].map .release)).2
    (table.run ([16777218, 1, 4, 16777218, 2].map .release)).2 = released ∧
      Nat.nth released.Vacant 2 = 5 := by
  intro table released
  have perm : List.Perm [2, 16777218, 4, 1, 16777218] [16777218, 1, 4, 16777218, (2 : Handle)] := by
    decide
  have both := run_release_then_insert HostValue.null (.object 0) [.insert (.bool true),
    .insert (.string "kept"), .insert (.bytes [7]), .release 2, .insert (.bool false)] perm
  obtain ⟨same, taken⟩ := both
  obtain ⟨stores, -, full⟩ := taken [.null, .null] (.bool true)
  have left : released = ⟨#[⟨0, some .null⟩, ⟨0, some (.object 0)⟩, ⟨2, none⟩,
      ⟨0, some (.string "kept")⟩, ⟨1, none⟩], [2, 4]⟩ := rfl
  have filled : (released.run ([HostValue.null, .null].map .insert)).2 =
      ⟨#[⟨0, some .null⟩, ⟨0, some (.object 0)⟩, ⟨2, some .null⟩, ⟨0, some (.string "kept")⟩,
        ⟨1, some .null⟩], []⟩ := by
    rw [left]
    rfl
  have vacant : (released.run ([HostValue.null, .null].map .insert)).2.Vacant 5 := by
    rw [filled]
    exact ⟨by decide, nofun⟩
  have reach : Nat.nth released.Vacant 2 < Handle.slotCount :=
    Nat.lt_of_not_le fun beyond => full.mp beyond 5 (by decide) vacant
  obtain ⟨slot, event, -⟩ := stores reach
  have known : ((released.run ([HostValue.null, .null].map .insert)).2.step
      (.insert (.bool true))).1 = .inserted (.bool true) (.ok 5) := by
    rw [filled]
    rfl
  have given := Except.ok.inj (Event.inserted.inj (event.symm.trans known)).2
  rw [given] at slot
  exact ⟨same, slot.symm⟩

end HandleTable

end WasmBridge
