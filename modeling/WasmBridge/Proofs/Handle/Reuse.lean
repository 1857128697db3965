import WasmBridge.Proofs.Handle.Resolution

/-!
# Handles that come back

The generation of a slot has eight bits.  A released handle is told apart from the
handles of the values that take its slot later as long as the slot was not released
a multiple of 256 times since, its own release counted; after every lap of 256
releases the handle is given out again.
-/

namespace WasmBridge.HandleTable

variable {α : Type} {null global value : α} {table next : HandleTable α} {handle : Handle}

/-- A slot holds a value, at whatever generation. -/
def Occupied (table : HandleTable α) (index : Nat) : Prop :=
  ∃ generation value, table.slots[index]? = some ⟨generation, some value⟩

/-- A handle is held under when its slot is occupied and at its generation. -/
theorem exists_holds_iff :
    (∃ value, table.Holds handle value) ↔
      table.Occupied handle.slot.toNat ∧
        table.generationAt handle.slot.toNat = handle.generation := by
  constructor
  · rintro ⟨value, held⟩
    refine ⟨⟨handle.generation, value, held⟩, ?_⟩
    rw [Holds] at held
    rw [generationAt, held]
    rfl
  · rintro ⟨⟨generation, value, found⟩, same⟩
    rw [generationAt, found] at same
    change generation = handle.generation at same
    rw [same] at found
    exact ⟨value, found⟩

/-- A slot at another generation than the handle's is outdated for it. -/
theorem outdated_of_occupied (unpinned : pinnedCount ≤ handle.slot.toNat)
    (occupied : table.Occupied handle.slot.toNat)
    (different : table.generationAt handle.slot.toNat ≠ handle.generation) :
    table.Outdated handle (table.generationAt handle.slot.toNat) := by
  obtain ⟨generation, value, found⟩ := occupied
  have current : table.generationAt handle.slot.toNat = generation := by
    rw [generationAt, found]
    rfl
  rw [current] at different ⊢
  exact ⟨unpinned, different, value, found⟩

/-- An insertion answers with a handle exactly when the slot of the handle is next and
at its generation. -/
theorem exists_insert_eq_ok_iff (wf : WellFormed null global table) (value : α) :
    (∃ next, table.insert value = .ok (handle, next)) ↔
      table.place? = some handle.slot.toNat ∧
        table.generationAt handle.slot.toNat = handle.generation := by
  constructor
  · rintro ⟨next, inserted⟩
    have stored := stored_of_insert wf inserted
    exact ⟨stored.place, stored.generation.symm⟩
  · rintro ⟨place, same⟩
    obtain ⟨next, answer, -⟩ := insert_of_place wf place value
    have packed : handle = Handle.pack (UInt32.ofNat handle.slot.toNat)
        (table.generationAt handle.slot.toNat) :=
      (Handle.eq_pack_iff handle.slot_lt).mpr ⟨rfl, same.symm⟩
    rw [← packed] at answer
    exact ⟨next, answer⟩

theorem add_ofNat_eq_self_iff (generation : UInt8) (count : Nat) :
    generation + UInt8.ofNat count = generation ↔ 256 ∣ count := by
  rw [Nat.dvd_iff_mod_eq_zero, ← UInt8.toNat_inj, UInt8.toNat_add, UInt8.toNat_ofNat']
  have bound := generation.toNat_lt
  omega

/-- After a release in the history of a run, the slot of the handle is at the handle's
generation exactly when the slot was released a multiple of 256 times since. -/
theorem generationAt_eq_iff_of_released {calls : List (Call α)} {before after : List (Event α)}
    {freed : α}
    (history : ((new null global).run calls).1 = before ++ .released handle (some freed) :: after) :
    pinnedCount ≤ handle.slot.toNat ∧
      (((new null global).run calls).2.generationAt handle.slot.toNat = handle.generation ↔
        256 ∣ releases handle.slot.toNat (.released handle (some freed) :: after)) := by
  obtain ⟨first, call, rest, -, -, event, later, final⟩ := run_split history
  have wf : WellFormed null global ((new null global).run first).2 :=
    (WellFormed.of_new null global).run first
  have effect := freed_of_step wf event
  have live : ((HandleTable.new null global).run first).2.generationAt handle.slot.toNat =
      handle.generation := (exists_holds_iff.mp ⟨freed, effect.held⟩).2
  have counted := generationAt_run wf (call :: rest) handle.slot.toNat
  rw [run_cons_fst, run_cons_snd, final, event, later, live] at counted
  rw [counted]
  exact ⟨effect.unpinned, add_ofNat_eq_self_iff _ _⟩

/--
What a released handle is good for afterwards depends on its slot and on how often the
slot was released since, its own release counted.  The handle is resolved, released
and given out again exactly when the count is a multiple of 256; at any other count it
is stale as long as its slot is occupied.
-/
theorem run_released (null global : α) (calls : List (Call α)) (before after : List (Event α))
    (handle : Handle) (freed : α)
    (history : ((new null global).run calls).1 = before ++ .released handle (some freed) :: after) :
    let table := ((new null global).run calls).2
    let index := handle.slot.toNat
    let count := releases index (.released handle (some freed) :: after)
    ((∃ value, table.get handle = .ok value) ↔ table.Occupied index ∧ 256 ∣ count) ∧
    ((∃ value, (table.release handle).1 = some value) ↔ table.Occupied index ∧ 256 ∣ count) ∧
    (∀ value, (∃ next, table.insert value = .ok (handle, next)) ↔
      table.place? = some index ∧ 256 ∣ count) ∧
    (table.Occupied index → ¬ 256 ∣ count →
      table.get handle = .error (.staleHandle handle handle.slot (table.generationAt index))) ∧
    (¬ table.Occupied index → table.get handle = .error (.invalidHandle handle)) := by
  intro table index count
  have wf : WellFormed null global table := (WellFormed.of_new null global).run calls
  obtain ⟨unpinned, counted⟩ := generationAt_eq_iff_of_released history
  have live : (∃ value, table.Holds handle value) ↔ table.Occupied index ∧ 256 ∣ count :=
    exists_holds_iff.trans (and_congr_right fun _ => counted)
  refine ⟨?_, ?_, ?_, ?_, ?_⟩
  · rw [← live]
    exact exists_congr fun value => get_eq_ok_iff wf
  · rw [← live]
    exact exists_congr fun value => release_eq_some_iff.trans (and_iff_right unpinned)
  · intro value
    exact (exists_insert_eq_ok_iff wf value).trans (and_congr_right fun _ => counted)
  · intro occupied between
    apply (get_eq_stale_iff wf).mpr
    exact outdated_of_occupied unpinned occupied (fun same => between (counted.mp same))
  · intro vacant
    apply get_of_vacant
    intro generation value found
    exact vacant ⟨generation, value, found⟩

/-- One release after its own, the handle of a slot taken again is stale. -/
theorem run_released_once :
    let history := (new HostValue.null (.object 0)).run
      [.insert (.bool false), .release 2, .insert (.bool true)]
    history.1 = [.inserted (.bool false) (.ok 2)] ++ .released 2 (some (.bool false)) ::
      [.inserted (.bool true) (.ok 16777218)] ∧
    history.2.get 2 = .error (.staleHandle 2 2 1) := by
  intro history
  have freed : history.1 = [.inserted (.bool false) (.ok 2)] ++
      .released 2 (some (.bool false)) :: [.inserted (.bool true) (.ok 16777218)] := rfl
  have fate := run_released HostValue.null (.object 0) _ _ _ 2 (.bool false) freed
  have occupied : history.2.Occupied 2 := ⟨1, .bool true, rfl⟩
  exact ⟨freed, fate.2.2.2.1 occupied (by decide)⟩

/-- Calls that take slot 2 from generation 1 through all generations to generation 0. -/
def lap : List (Call HostValue) :=
  (List.range' 1 255).flatMap (fun turn =>
    [.insert (.bool true), .release (Handle.pack 2 (UInt8.ofNat turn))]) ++
      [.insert (.bool true)]

set_option maxRecDepth 4000 in
/-- A released handle comes back: after a lap of its slot it is given out again, resolves
to the later value, and releases it. -/
theorem released_handle_returns :
    let released := (new HostValue.null (.object 0)).run [.insert (.bool false), .release 2]
    let later := released.2.run lap
    released.1 = [.inserted (.bool false) (.ok 2), .released 2 (some (.bool false))] ∧
    later.1.getLast? = some (.inserted (.bool true) (.ok 2)) ∧
    later.2.get 2 = .ok (.bool true) ∧
    (later.2.release 2).1 = some (.bool true) :=
  ⟨rfl, rfl, rfl, rfl⟩

end WasmBridge.HandleTable
