import WasmBridge.Proofs.Handle.Run
import WasmBridge.Value.Basic

/-!
# What a handle resolves to

A handle that an insertion answered with resolves to the stored value until it is
released, whatever else happens to the table.  Of the handles that were not given
out, a table tells those whose slot went on to a later generation from all others.
-/

namespace WasmBridge.HandleTable

variable {α : Type} {null global value : α} {table next : HandleTable α} {handle : Handle}

/-- The unpinned slot of a handle holds a value at another generation. -/
def Outdated (table : HandleTable α) (handle : Handle) (current : UInt8) : Prop :=
  pinnedCount ≤ handle.slot.toNat ∧ current ≠ handle.generation ∧
    ∃ value, table.slots[handle.slot.toNat]? = some ⟨current, some value⟩

/-! ## The answers of a lookup -/

theorem get_of_vacant
    (vacant : ∀ current value, table.slots[handle.slot.toNat]? ≠ some ⟨current, some value⟩) :
    table.get handle = .error (.invalidHandle handle) := by
  unfold HandleTable.get
  split
  · next current value found => exact absurd found (vacant current value)
  · rfl

/-- A pinned slot never leaves generation 0, so that its check comes to the same as
the comparison of generations. -/
theorem get_of_occupied (wf : WellFormed null global table) {current : UInt8}
    (found : table.slots[handle.slot.toNat]? = some ⟨current, some value⟩) :
    table.get handle =
      if current = handle.generation then .ok value
      else if handle.slot.toNat < pinnedCount then .error (.invalidHandle handle)
      else .error (.staleHandle handle handle.slot current) := by
  unfold HandleTable.get
  rw [found]
  dsimp only
  by_cases pinned : handle.slot.toNat < pinnedCount
  · obtain ⟨first, slot⟩ := wf.pinned_slot pinned
    rw [found] at slot
    have unreleased : current = 0 := congrArg Slot.generation (Option.some.inj slot)
    by_cases later : handle.generation = 0
    · simp [later, unreleased]
    · simp [pinned, later, unreleased, Ne.symm later]
  · simp [pinned]

/-- A lookup in a well-formed table, by what the slot of the handle holds. -/
theorem get_cases (wf : WellFormed null global table) (handle : Handle) :
    (∃ value, table.Holds handle value ∧ table.get handle = .ok value) ∨
    (∃ current, table.Outdated handle current ∧
      table.get handle = .error (.staleHandle handle handle.slot current)) ∨
    ((∀ value, ¬ table.Holds handle value) ∧ (∀ current, ¬ table.Outdated handle current) ∧
      table.get handle = .error (.invalidHandle handle)) := by
  by_cases occupied :
      ∃ current value, table.slots[handle.slot.toNat]? = some ⟨current, some value⟩
  · obtain ⟨current, value, found⟩ := occupied
    have answer := get_of_occupied wf found
    by_cases same : current = handle.generation
    · rw [if_pos same] at answer
      rw [same] at found
      exact Or.inl ⟨value, found, answer⟩
    · rw [if_neg same] at answer
      by_cases pinned : handle.slot.toNat < pinnedCount
      · rw [if_pos pinned] at answer
        refine Or.inr (Or.inr ⟨?_, ?_, answer⟩)
        · intro other held
          have slots := found.symm.trans held
          exact same (congrArg Slot.generation (Option.some.inj slots))
        · intro other outdated
          exact absurd outdated.1 (Nat.not_le_of_lt pinned)
      · rw [if_neg pinned] at answer
        exact Or.inr (Or.inl ⟨current, ⟨Nat.le_of_not_lt pinned, same, value, found⟩, answer⟩)
  · refine Or.inr (Or.inr ⟨?_, ?_, ?_⟩)
    · intro value held
      exact occupied ⟨handle.generation, value, held⟩
    · rintro current ⟨-, -, value, found⟩
      exact occupied ⟨current, value, found⟩
    · apply get_of_vacant
      intro current value found
      exact occupied ⟨current, value, found⟩

theorem not_outdated_of_holds (held : table.Holds handle value) (current : UInt8) :
    ¬ table.Outdated handle current := by
  rintro ⟨-, different, other, found⟩
  rw [held] at found
  cases found
  exact different rfl

/-- A handle resolves exactly to the value that its slot holds at its generation. -/
theorem get_eq_ok_iff (wf : WellFormed null global table) :
    table.get handle = .ok value ↔ table.Holds handle value := by
  rcases get_cases wf handle with
    ⟨other, held, answer⟩ | ⟨current, outdated, answer⟩ | ⟨unheld, -, answer⟩
  · rw [answer]
    constructor
    · rintro ⟨⟩
      exact held
    · intro also
      rw [Holds, held] at also
      cases also
      rfl
  · rw [answer]
    constructor
    · rintro ⟨⟩
    · intro held
      exact absurd outdated (not_outdated_of_holds held current)
  · rw [answer]
    constructor
    · rintro ⟨⟩
    · intro held
      exact absurd held (unheld value)

/-- A handle is stale exactly when its slot holds a value at another generation. -/
theorem get_eq_stale_iff (wf : WellFormed null global table) {current : UInt8} :
    table.get handle = .error (.staleHandle handle handle.slot current) ↔
      table.Outdated handle current := by
  rcases get_cases wf handle with
    ⟨value, held, answer⟩ | ⟨other, outdated, answer⟩ | ⟨-, undated, answer⟩
  · rw [answer]
    constructor
    · rintro ⟨⟩
    · intro outdated
      exact absurd outdated (not_outdated_of_holds held current)
  · rw [answer]
    constructor
    · rintro ⟨⟩
      exact outdated
    · intro also
      obtain ⟨-, -, value, found⟩ := outdated
      obtain ⟨-, -, again, there⟩ := also
      rw [found] at there
      cases there
      rfl
  · rw [answer]
    constructor
    · rintro ⟨⟩
    · intro outdated
      exact absurd outdated (undated current)

/-- A handle is invalid in every other case. -/
theorem get_eq_invalid_iff (wf : WellFormed null global table) :
    table.get handle = .error (.invalidHandle handle) ↔
      (∀ value, ¬ table.Holds handle value) ∧ ∀ current, ¬ table.Outdated handle current := by
  rcases get_cases wf handle with
    ⟨value, held, answer⟩ | ⟨current, outdated, answer⟩ | ⟨unheld, undated, answer⟩
  · rw [answer]
    constructor
    · rintro ⟨⟩
    · intro others
      exact absurd held (others.1 value)
  · rw [answer]
    constructor
    · rintro ⟨⟩
    · intro others
      exact absurd outdated (others.2 current)
  · rw [answer]
    exact ⟨fun _ => ⟨unheld, undated⟩, fun _ => rfl⟩

/-! ## Handles that were given out -/

/-- A stored value is held under its handle. -/
theorem Stored.holds (stored : Stored table value handle next) : next.Holds handle value := by
  rw [Holds, stored.slots, if_pos rfl]

/-- A call other than the release of a live handle leaves its value in place, and
does not give out the handle again. -/
theorem Holds.step (wf : WellFormed null global table) (held : table.Holds handle value)
    (call : Call α) (kept : ∀ released, (table.step call).1 ≠ .released handle (some released)) :
    (table.step call).2.Holds handle value ∧
      ∀ other, (table.step call).1 ≠ .inserted other (.ok handle) := by
  rcases step_cases wf call with
    ⟨new, given, event, stored⟩ | ⟨freed, released, event, effect⟩ | ⟨same, none, -⟩
  · have apart : handle.slot.toNat ≠ given.slot.toNat := by
      intro meets
      have place := stored.place
      rw [← meets] at place
      exact wf.place?_vacant place held
    constructor
    · rw [Holds, stored.slots, if_neg apart]
      exact held
    · intro other again
      rw [event] at again
      cases again
      exact apart rfl
  · have apart : handle.slot.toNat ≠ freed.slot.toNat := by
      intro meets
      have there := effect.held
      rw [Holds, ← meets, held] at there
      have generations : handle.generation = freed.generation :=
        congrArg Slot.generation (Option.some.inj there)
      have whole := Handle.eq_of_slot_of_generation meets generations
      exact kept released (whole ▸ event)
    constructor
    · rw [Holds, effect.slots, if_neg apart]
      exact held
    · intro other again
      rw [event] at again
      cases again
  · rw [same]
    exact ⟨held, fun other => none other handle⟩

/-- A live handle keeps its value through every run in which it is not released, and
is not given out again in the run. -/
theorem Holds.run (wf : WellFormed null global table) (held : table.Holds handle value)
    {calls : List (Call α)}
    (kept : ∀ released, .released handle (some released) ∉ (table.run calls).1) :
    (table.run calls).2.Holds handle value ∧
      ∀ other, .inserted other (.ok handle) ∉ (table.run calls).1 := by
  induction calls generalizing table with
  | nil => exact ⟨held, fun other => List.not_mem_nil⟩
  | cons call rest ih =>
      obtain ⟨now, fresh⟩ := held.step wf call (fun released event =>
        kept released (List.mem_cons.mpr (Or.inl event.symm)))
      obtain ⟨later, never⟩ := ih (wf.step call) now (fun released member =>
        kept released (List.mem_cons_of_mem _ member))
      refine ⟨later, ?_⟩
      intro other member
      rcases List.mem_cons.mp member with event | member
      · exact fresh other event.symm
      · exact never other member

/-- After an insertion in the history of a run and no release of its handle since, the
handle holds the value and was not given out again. -/
theorem holds_of_inserted {calls : List (Call α)} {before after : List (Event α)}
    (history : ((new null global).run calls).1 = before ++ .inserted value (.ok handle) :: after)
    (kept : ∀ released, .released handle (some released) ∉ after) :
    pinnedCount ≤ handle.slot.toNat ∧ ((new null global).run calls).2.Holds handle value ∧
      ∀ other, .inserted other (.ok handle) ∉ after := by
  obtain ⟨first, call, rest, -, -, event, later, final⟩ := run_split history
  have wf : WellFormed null global ((new null global).run first).2 :=
    (WellFormed.of_new null global).run first
  have stored := stored_of_step wf event
  obtain ⟨unpinned, -⟩ := wf.place?_bounds stored.place
  rw [← later] at kept ⊢
  rw [← final]
  exact ⟨unpinned, stored.holds.run (wf.step call) kept⟩

/-- A handle that is given out twice was released in between. -/
theorem released_of_inserted_twice {calls : List (Call α)} {other : α}
    {before between after : List (Event α)}
    (history : ((new null global).run calls).1 = before ++ .inserted value (.ok handle) ::
      (between ++ .inserted other (.ok handle) :: after)) :
    ∃ released, .released handle (some released) ∈ between := by
  rw [← List.cons_append, ← List.append_assoc] at history
  obtain ⟨first, call, rest, -, past, event, -, -⟩ := run_split history
  have wf : WellFormed null global ((new null global).run first).2 :=
    (WellFormed.of_new null global).run first
  apply Classical.byContradiction
  intro unreleased
  obtain ⟨-, held, -⟩ := holds_of_inserted past (fun released member =>
    unreleased ⟨released, member⟩)
  have fresh := (held.step wf call (fun released also => by
    rw [event] at also
    cases also)).2 other
  exact fresh event

/--
In every run a handle that was given out resolves to its value until it is released,
and that release answers with the value.  A handle is given out again only after it
was released.  In every table that a run leads to, each handle is resolved, stale or
invalid by its slot and generation alone, and the two pinned handles are resolved.
-/
theorem run_resolution (null global : α) (calls : List (Call α)) :
    let events := ((new null global).run calls).1
    let table := ((new null global).run calls).2
    (∀ before value handle after, events = before ++ .inserted value (.ok handle) :: after →
      (∀ released, .released handle (some released) ∉ after) →
        table.get handle = .ok value ∧ (table.release handle).1 = some value) ∧
    (∀ before value handle between other after,
      events = before ++ .inserted value (.ok handle) ::
        (between ++ .inserted other (.ok handle) :: after) →
          ∃ released, .released handle (some released) ∈ between) ∧
    table.get Handle.null = .ok null ∧
    table.get Handle.global = .ok global ∧
    ∀ handle,
      (∀ value, table.get handle = .ok value ↔ table.Holds handle value) ∧
      (∀ current, table.get handle = .error (.staleHandle handle handle.slot current) ↔
        table.Outdated handle current) ∧
      (table.get handle = .error (.invalidHandle handle) ↔
        (∀ value, ¬ table.Holds handle value) ∧ ∀ current, ¬ table.Outdated handle current) := by
  intro events table
  have wf : WellFormed null global table := (WellFormed.of_new null global).run calls
  refine ⟨?_, ?_, ?_, ?_, ?_⟩
  · intro before value handle after history kept
    obtain ⟨unpinned, held, -⟩ := holds_of_inserted history kept
    exact ⟨(get_eq_ok_iff wf).mpr held, release_eq_some_iff.mpr ⟨unpinned, held⟩⟩
  · intro before value handle between other after history
    exact released_of_inserted_twice history
  · exact (get_eq_ok_iff wf).mpr wf.null_slot
  · exact (get_eq_ok_iff wf).mpr wf.global_slot
  · intro handle
    exact ⟨fun value => get_eq_ok_iff wf, fun current => get_eq_stale_iff wf,
      get_eq_invalid_iff wf⟩

/-- Slot 2 is taken again while slot 3 keeps its value. -/
theorem run_resolution_of_reuse :
    let history := (new HostValue.null (.object 0)).run
      [.insert (.bool true), .insert (.bool false), .release 2, .insert (.bool true)]
    history.1 = [.inserted (.bool true) (.ok 2)] ++ .inserted (.bool false) (.ok 3) ::
      [.released 2 (some (.bool true)), .inserted (.bool true) (.ok 16777218)] ∧
    history.2.get 3 = .ok (.bool false) ∧
    history.2.get 2 = .error (.staleHandle 2 2 1) := by
  intro history
  have resolution := run_resolution HostValue.null (.object 0)
    [.insert (.bool true), .insert (.bool false), .release 2, .insert (.bool true)]
  have given : history.1 = [.inserted (.bool true) (.ok 2)] ++
      .inserted (.bool false) (.ok 3) ::
        [.released 2 (some (.bool true)), .inserted (.bool true) (.ok 16777218)] := rfl
  have kept : ∀ released, Event.released 3 (some released) ∉
      [Event.released 2 (some (HostValue.bool true)),
        .inserted (.bool true) (.ok 16777218)] := by
    intro released member
    simp at member
  have outdated : history.2.Outdated 2 1 := ⟨by decide, by decide, .bool true, rfl⟩
  exact ⟨given, (resolution.1 _ _ _ _ given kept).1,
    (((resolution.2.2.2.2) 2).2.1 1).mpr outdated⟩

end WasmBridge.HandleTable
