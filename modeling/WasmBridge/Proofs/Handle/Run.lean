import WasmBridge.Proofs.Handle.Operations

/-!
# Runs of a table

A run is any sequence of calls on a table, with any values and any handles.  Its
history records what each call came to.  Every call keeps a table well formed, and
the generation of a slot counts the releases of the slot in the history.
-/

namespace WasmBridge.HandleTable

variable {α : Type} {null global value : α} {table next : HandleTable α} {handle : Handle}

/-- A call on a table. -/
inductive Call (α : Type) where
  | insert (value : α)
  | get (handle : Handle)
  | release (handle : Handle)

/-- What a call came to. -/
inductive Event (α : Type) where
  | inserted (value : α) (answer : Except Fault Handle)
  | looked (handle : Handle) (answer : Except Fault α)
  | released (handle : Handle) (answer : Option α)

/-- One call.  An insertion that is refused leaves the table as it was. -/
def step (table : HandleTable α) : Call α → Event α × HandleTable α
  | .insert value =>
    match table.insert value with
    | .ok (handle, next) => (.inserted value (.ok handle), next)
    | .error fault => (.inserted value (.error fault), table)
  | .get handle => (.looked handle (table.get handle), table)
  | .release handle => (.released handle (table.release handle).1, (table.release handle).2)

/-- The history of a sequence of calls, and the table they lead to. -/
def run (table : HandleTable α) : List (Call α) → List (Event α) × HandleTable α
  | [] => ([], table)
  | call :: rest =>
    let (event, next) := table.step call
    let (events, last) := next.run rest
    (event :: events, last)

/-- Whether an event vacated a slot. -/
def Event.frees (index : Nat) : Event α → Bool
  | .released handle (some _) => handle.slot.toNat == index
  | _ => false

/-- How often a slot was released in a history. -/
def releases (index : Nat) (events : List (Event α)) : Nat :=
  events.countP (Event.frees index)

/-- How many slots hold a value, the pinned ones not counted. -/
def occupied (table : HandleTable α) : Nat :=
  (List.range' pinnedCount (table.slots.size - pinnedCount)).countP fun index =>
    (table.slots[index]?.bind Slot.value).isSome

@[simp] theorem run_cons_fst (call : Call α) (rest : List (Call α)) :
    (table.run (call :: rest)).1 = (table.step call).1 :: ((table.step call).2.run rest).1 :=
  rfl

@[simp] theorem run_cons_snd (call : Call α) (rest : List (Call α)) :
    (table.run (call :: rest)).2 = ((table.step call).2.run rest).2 :=
  rfl

/-- A run after another is one run. -/
theorem run_append (table : HandleTable α) (first second : List (Call α)) :
    table.run (first ++ second) =
      ((table.run first).1 ++ ((table.run first).2.run second).1,
        ((table.run first).2.run second).2) := by
  induction first generalizing table with
  | nil => rfl
  | cons call first ih =>
      refine Prod.ext ?_ ?_
      · rw [List.cons_append, run_cons_fst, ih, run_cons_fst, run_cons_snd, List.cons_append]
      · rw [List.cons_append, run_cons_snd, ih, run_cons_snd]

/-- A history that has an event in it is the history of a run up to the event, the
event, and the history of a run from there. -/
theorem run_split {calls : List (Call α)} {before after : List (Event α)} {event : Event α}
    (history : (table.run calls).1 = before ++ event :: after) :
    ∃ first call rest, calls = first ++ call :: rest ∧
      (table.run first).1 = before ∧
      ((table.run first).2.step call).1 = event ∧
      (((table.run first).2.step call).2.run rest).1 = after ∧
      (((table.run first).2.step call).2.run rest).2 = (table.run calls).2 := by
  induction before generalizing table calls with
  | nil =>
      cases calls with
      | nil => cases history
      | cons call rest =>
          rw [run_cons_fst, List.nil_append] at history
          obtain ⟨head, tail⟩ := List.cons.inj history
          exact ⟨[], call, rest, rfl, rfl, head, tail, rfl⟩
  | cons earlier before ih =>
      cases calls with
      | nil => cases history
      | cons opening calls =>
          rw [run_cons_fst, List.cons_append] at history
          obtain ⟨head, tail⟩ := List.cons.inj history
          obtain ⟨first, call, rest, shape, past, now, future, final⟩ := ih tail
          refine ⟨opening :: first, call, rest, ?_, ?_, now, future, final⟩
          · rw [shape]
            rfl
          · rw [run_cons_fst, head, past]

/-! ## What one call does -/

/-- A call stores a value, releases a handle, or leaves the table as it was. -/
theorem step_cases (wf : WellFormed null global table) (call : Call α) :
    (∃ value handle, (table.step call).1 = .inserted value (.ok handle) ∧
      Stored table value handle (table.step call).2) ∨
    (∃ handle value, (table.step call).1 = .released handle (some value) ∧
      Freed table handle value (table.step call).2) ∨
    ((table.step call).2 = table ∧
      (∀ value handle, (table.step call).1 ≠ .inserted value (.ok handle)) ∧
      ∀ handle value, (table.step call).1 ≠ .released handle (some value)) := by
  cases call with
  | insert value =>
      cases answer : table.insert value with
      | ok result =>
          obtain ⟨handle, next⟩ := result
          have performed : table.step (.insert value) = (.inserted value (.ok handle), next) := by
            simp only [step, answer]
          rw [performed]
          exact Or.inl ⟨value, handle, rfl, stored_of_insert wf answer⟩
      | error fault =>
          have performed : table.step (.insert value) = (.inserted value (.error fault), table) := by
            simp only [step, answer]
          rw [performed]
          exact Or.inr (Or.inr ⟨rfl, nofun, nofun⟩)
  | get handle =>
      exact Or.inr (Or.inr ⟨rfl, nofun, nofun⟩)
  | release handle =>
      cases answer : (table.release handle).1 with
      | none =>
          have performed : table.step (.release handle) = (.released handle none, table) := by
            simp only [step, answer, release_of_none answer]
          rw [performed]
          exact Or.inr (Or.inr ⟨rfl, nofun, nofun⟩)
      | some value =>
          have performed : table.step (.release handle) =
              (.released handle (some value), (table.release handle).2) := by
            simp only [step, answer]
          rw [performed]
          exact Or.inr (Or.inl ⟨handle, value, rfl, freed_of_release answer⟩)

theorem stored_of_step (wf : WellFormed null global table) {call : Call α}
    (event : (table.step call).1 = .inserted value (.ok handle)) :
    Stored table value handle (table.step call).2 := by
  rcases step_cases wf call with
    ⟨new, given, answer, stored⟩ | ⟨freed, released, answer, -⟩ | ⟨-, none, -⟩
  · rw [event] at answer
    cases answer
    exact stored
  · rw [event] at answer
    cases answer
  · exact absurd event (none value handle)

theorem freed_of_step (wf : WellFormed null global table) {call : Call α}
    (event : (table.step call).1 = .released handle (some value)) :
    Freed table handle value (table.step call).2 := by
  rcases step_cases wf call with
    ⟨new, given, answer, -⟩ | ⟨released, held, answer, freed⟩ | ⟨-, -, none⟩
  · rw [event] at answer
    cases answer
  · rw [event] at answer
    cases answer
    exact freed
  · exact absurd event (none handle value)

namespace WellFormed

theorem of_new (null global : α) : WellFormed null global (new null global) where
  null_slot := rfl
  global_slot := rfl
  size_le := by
    change 2 ≤ Handle.slotCount
    decide
  mem_free_iff := by
    intro index
    constructor
    · intro member
      cases member
    · rintro ⟨unpinned, generation, vacant⟩
      have outside : (new null global).slots.size ≤ index := unpinned
      rw [Array.getElem?_eq_none outside] at vacant
      cases vacant
  free_sorted := List.Pairwise.nil

/-- A change of one unpinned slot keeps a table well formed if the list of vacant slots
is brought in step with it. -/
theorem of_replaced (wf : WellFormed null global table) {slot : Slot α}
    (unpinned : pinnedCount ≤ handle.slot.toNat)
    (slots : ∀ index, next.slots[index]? =
      if index = handle.slot.toNat then some slot else table.slots[index]?)
    (mem_free_iff : ∀ index, index ∈ next.free ↔
      pinnedCount ≤ index ∧ ∃ generation, next.slots[index]? = some ⟨generation, none⟩)
    (free_sorted : next.free.Pairwise (· < ·)) : WellFormed null global next := by
  have pinned : ∀ index < pinnedCount, next.slots[index]? = table.slots[index]? := by
    intro index below
    rw [slots, if_neg (by omega)]
  refine ⟨?_, ?_, ?_, mem_free_iff, free_sorted⟩
  · rw [pinned 0 (by decide), wf.null_slot]
  · rw [pinned 1 (by decide), wf.global_slot]
  · have bound := handle.slot_lt
    have outside : next.slots[Handle.slotCount]? = none := by
      rw [slots, if_neg (by omega)]
      exact Array.getElem?_eq_none wf.size_le
    exact Array.getElem?_eq_none_iff.mp outside

/-- A stored value takes its slot off the vacant ones. -/
theorem of_stored (wf : WellFormed null global table)
    (stored : Stored table value handle next) : WellFormed null global next := by
  obtain ⟨unpinned, -, -⟩ := wf.place?_bounds stored.place
  refine wf.of_replaced unpinned stored.slots ?_ ?_
  · intro index
    have vacant := wf.mem_free_iff index
    have sorted := wf.free_sorted
    have place := stored.place
    rw [stored.free, stored.slots]
    cases list : table.free with
    | nil =>
        rw [list] at vacant
        by_cases same : index = handle.slot.toNat
        · simp [same]
        · rw [if_neg same]
          simpa using vacant
    | cons first rest =>
        rw [list] at vacant sorted
        have first_eq : first = handle.slot.toNat := by
          simpa [place?, list] using place
        have least := (List.pairwise_cons.mp sorted).1
        by_cases same : index = handle.slot.toNat
        · have absent : index ∉ rest := by
            intro member
            have := least index member
            omega
          rw [if_pos same, List.tail_cons]
          simp [absent]
        · rw [if_neg same, ← vacant, List.mem_cons, List.tail_cons]
          simp [first_eq, same]
  · rw [stored.free]
    exact wf.free_sorted.tail

/-- A released handle puts its slot among the vacant ones. -/
theorem of_freed (wf : WellFormed null global table)
    (freed : Freed table handle value next) : WellFormed null global next := by
  have unpinned := freed.unpinned
  refine wf.of_replaced unpinned freed.slots ?_ ?_
  · intro index
    rw [freed.free, freed.slots, mem_insertSorted, wf.mem_free_iff]
    by_cases same : index = handle.slot.toNat
    · simp [same, unpinned]
    · rw [if_neg same]
      simp [same]
  · rw [freed.free]
    exact insertSorted_sorted wf.free_sorted

/-- Every call keeps a table well formed. -/
theorem step (wf : WellFormed null global table) (call : Call α) :
    WellFormed null global (table.step call).2 := by
  rcases step_cases wf call with ⟨value, handle, -, stored⟩ | ⟨handle, value, -, freed⟩ | ⟨same, -⟩
  · exact wf.of_stored stored
  · exact wf.of_freed freed
  · rw [same]
    exact wf

/-- Every run keeps a table well formed. -/
theorem run (wf : WellFormed null global table) (calls : List (Call α)) :
    WellFormed null global (table.run calls).2 := by
  induction calls generalizing table with
  | nil => exact wf
  | cons call rest ih => exact ih (wf.step call)

/-- What is not vacant is occupied: the length of a table counts the occupied slots. -/
theorem length_eq_occupied (wf : WellFormed null global table) :
    pinnedCount + table.free.length + table.occupied = table.slots.size := by
  have bound := wf.pinnedCount_le_size
  have vacant : table.free.Perm
      ((List.range' pinnedCount (table.slots.size - pinnedCount)).filter fun index =>
        ¬ (table.slots[index]?.bind Slot.value).isSome) := by
    have distinct : table.free.Nodup := wf.free_sorted.imp Nat.ne_of_lt
    refine (List.perm_ext_iff_of_nodup distinct
      (List.Pairwise.filter _ List.nodup_range')).mpr ?_
    intro index
    rw [wf.mem_free_iff, List.mem_filter, List.mem_range'_1]
    cases found : table.slots[index]? with
    | none =>
        have outside := Array.getElem?_eq_none_iff.mp found
        simp
        omega
    | some slot =>
        obtain ⟨inside, -⟩ := Array.getElem?_eq_some_iff.mp found
        obtain ⟨generation, content⟩ := slot
        cases content with
        | none =>
            simp
            omega
        | some value => simp
  have split := List.length_eq_countP_add_countP
    (fun index => (table.slots[index]?.bind Slot.value).isSome)
    (l := List.range' pinnedCount (table.slots.size - pinnedCount))
  rw [List.length_range', List.countP_eq_length_filter (p := fun index =>
    decide ¬ (table.slots[index]?.bind Slot.value).isSome), ← vacant.length_eq] at split
  change table.slots.size - pinnedCount = table.occupied + table.free.length at split
  omega

end WellFormed

/-! ## Generations -/

theorem Stored.generationAt (stored : Stored table value handle next) (index : Nat) :
    next.generationAt index = table.generationAt index := by
  unfold HandleTable.generationAt
  rw [stored.slots]
  by_cases same : index = handle.slot.toNat
  · rw [if_pos same, same]
    exact stored.generation
  · rw [if_neg same]

theorem Freed.generationAt (freed : Freed table handle value next) (index : Nat) :
    next.generationAt index =
      table.generationAt index + if handle.slot.toNat = index then 1 else 0 := by
  have held := freed.held
  unfold Holds at held
  unfold HandleTable.generationAt
  rw [freed.slots]
  by_cases same : index = handle.slot.toNat
  · rw [if_pos same, if_pos same.symm, same, held]
    rfl
  · rw [if_neg same, if_neg (Ne.symm same), UInt8.add_zero]

theorem generationAt_step (wf : WellFormed null global table) (call : Call α) (index : Nat) :
    (table.step call).2.generationAt index = table.generationAt index +
      if (table.step call).1.frees index then 1 else 0 := by
  rcases step_cases wf call with
    ⟨value, handle, event, stored⟩ | ⟨handle, value, event, freed⟩ | ⟨same, -, unreleased⟩
  · rw [event, stored.generationAt]
    exact (UInt8.add_zero _).symm
  · rw [event, freed.generationAt]
    simp only [Event.frees, beq_iff_eq]
  · have kept : (table.step call).1.frees index = false := by
      cases event : (table.step call).1 with
      | inserted value answer => rfl
      | looked handle answer => rfl
      | released handle answer =>
          cases answer with
          | none => rfl
          | some value => exact absurd event (unreleased handle value)
    rw [same, kept]
    exact (UInt8.add_zero _).symm

/-- A slot's generation goes up by the number of its releases, modulo 256. -/
theorem generationAt_run (wf : WellFormed null global table) (calls : List (Call α))
    (index : Nat) :
    (table.run calls).2.generationAt index =
      table.generationAt index + UInt8.ofNat (releases index (table.run calls).1) := by
  induction calls generalizing table with
  | nil => exact (UInt8.add_zero _).symm
  | cons call rest ih =>
      have counted : releases index (table.run (call :: rest)).1 =
          releases index ((table.step call).2.run rest).1 +
            if (table.step call).1.frees index then 1 else 0 :=
        List.countP_cons
      rw [run_cons_snd, ih (wf.step call), generationAt_step wf, counted, UInt8.ofNat_add,
        UInt8.add_assoc, UInt8.add_comm (UInt8.ofNat (releases _ _))]
      congr 2
      cases (table.step call).1.frees index <;> rfl

/-- A new table is at generation 0 everywhere, so that a run alone settles the
generations. -/
theorem generationAt_run_new (null global : α) (calls : List (Call α)) (index : Nat) :
    ((new null global).run calls).2.generationAt index =
      UInt8.ofNat (releases index ((new null global).run calls).1) := by
  have start : (new null global).generationAt index = 0 := by
    rcases index with _ | _ | index
    · rfl
    · rfl
    · rfl
  rw [generationAt_run (.of_new null global), start, UInt8.zero_add]

/--
Both records of what is vacant agree after every run: the table is well formed, its
unpinned slots are at the generation that their releases lead to, and its length is
the number of values stored, with no subtraction below zero and no vacant slot beyond
the end.
-/
theorem run_representation (null global : α) (calls : List (Call α)) :
    let events := ((new null global).run calls).1
    let table := ((new null global).run calls).2
    WellFormed null global table ∧
      (∀ index slot, pinnedCount ≤ index → table.slots[index]? = some slot →
        slot.generation.toNat = releases index events % 256) ∧
      table.length = table.occupied ∧
      pinnedCount ≤ table.slots.size ∧
      table.free.length ≤ table.slots.size - pinnedCount ∧
      ∀ index rest, table.free = index :: rest → index < table.slots.size := by
  intro events table
  have wf : WellFormed null global table := (WellFormed.of_new null global).run calls
  have sizes := wf.length_eq_occupied
  refine ⟨wf, ?_, ?_, wf.pinnedCount_le_size, ?_, ?_⟩
  · intro index slot _ found
    have counted : table.generationAt index = UInt8.ofNat (releases index events) :=
      generationAt_run_new null global calls index
    unfold HandleTable.generationAt at counted
    rw [found] at counted
    change slot.generation = _ at counted
    rw [counted, UInt8.toNat_ofNat']
  · unfold length
    omega
  · omega
  · intro index rest vacant
    apply wf.lt_size_of_mem_free
    rw [vacant]
    exact List.mem_cons_self

end WasmBridge.HandleTable
