import WasmBridge.Proofs.Worker.Joining

/-!
# Several joins at a time

Joins that go on at the same time share the handles of the pool: one that finds no handle
returns, though another may have taken handles and not joined their threads yet.  A join
waits for every worker that was started before it began except for those.
-/

namespace WasmBridge

namespace Crew

variable {limit : Option UInt32} {crew later : Crew} {actor : Actor} {place index : Nat}
  {worker : UInt32}

/-- A worker was started at a place, and a join that leaves left no handle of it in the
pool. -/
structure Passed (place : Nat) (worker : UInt32) (index : Nat) (crew : Crew) : Prop where
  started : ∃ call, crew.calls[place]? = some call ∧ call.stage = .started worker
  emptied : ∃ joiner, crew.joiners[index]? = some joiner ∧
    (joiner.next = .leaving ∨ joiner.next = .left → place ∉ crew.kept)

theorem Alters.started {pool after : Pool} {call altered : Call}
    (alters : Alters limit pool call after altered) (stage : call.stage = .started worker) :
    altered.stage = .started worker := by
  cases alters with
  | spawns spawns =>
      have busy := spawns.isBusy
      rw [stage] at busy
      cases busy
  | keeps keeping =>
      rw [stage] at keeping
      cases keeping
  | works works => rw [works.frame.2.2.1, stage]
  | records named thread => exact stage

theorem Step.started (step : Step limit crew actor later)
    (started : ∃ call, crew.calls[place]? = some call ∧ call.stage = .started worker) :
    ∃ call, later.calls[place]? = some call ∧ call.stage = .started worker :=
  step.call_of_alters (fun alters stage => alters.started stage) started

theorem emptied_of_set {joiners : List Joiner} {kept : List Nat} (other : Nat) (after : Joiner)
    (emptied : ∃ joiner, joiners[index]? = some joiner ∧
      (joiner.next = .leaving ∨ joiner.next = .left → place ∉ kept))
    (own : other = index → after.next = .leaving ∨ after.next = .left → place ∉ kept) :
    ∃ joiner, (joiners.set other after)[index]? = some joiner ∧
      (joiner.next = .leaving ∨ joiner.next = .left → place ∉ kept) := by
  obtain ⟨joiner, found, none⟩ := emptied
  by_cases same : other = index
  · have within := (List.getElem?_eq_some_iff.mp found).1
    exact ⟨after, by rw [same, List.getElem?_set_self within], own same⟩
  · exact ⟨joiner, by rwa [List.getElem?_set_ne same], none⟩

theorem Passed.step (passed : Passed place worker index crew)
    (step : Step limit crew actor later) : Passed place worker index later where
  started := step.started passed.started
  emptied := by
    obtain ⟨joiner, found, none⟩ := passed.emptied
    have nobody : ∃ joiner, crew.joiners[index]? = some joiner ∧
        (joiner.next = .leaving ∨ joiner.next = .left → place ∉ []) :=
      ⟨joiner, found, fun _ => List.not_mem_nil⟩
    cases step with
    | call launch free => exact ⟨joiner, found, none⟩
    | spawn there spawns => exact ⟨joiner, found, none⟩
    | keep there keeping =>
        refine ⟨joiner, found, fun leaves member => ?_⟩
        rcases List.mem_append.mp member with old | new
        · exact none leaves old
        · obtain ⟨call, same, stage⟩ := passed.started
          rw [List.mem_singleton.mp new, there] at same
          cases same
          rw [keeping] at stage
          cases stage
    | work there free works => exact ⟨joiner, found, none⟩
    | join =>
        have within := (List.getElem?_eq_some_iff.mp found).1
        exact ⟨joiner, by rwa [List.getElem?_append_left within], none⟩
    | take there next empty some =>
        exact emptied_of_set _ _ nobody fun _ _ => List.not_mem_nil
    | takeNone there next empty none =>
        exact emptied_of_set _ _ nobody fun _ _ => List.not_mem_nil
    | collect there next batch met thread =>
        exact emptied_of_set _ _ passed.emptied (by simp [next])
    | notice there next batch met thread =>
        exact emptied_of_set _ _ passed.emptied (by simp)
    | record there next batch met named thread =>
        exact emptied_of_set _ _ passed.emptied (by simp)
    | leave there next =>
        refine emptied_of_set _ _ passed.emptied fun same _ => ?_
        rw [same, found] at there
        cases there
        exact none (.inl next)

/-- When a join has returned, every worker that was started before it began has exited, or
its handle is with another join that did not join it yet. -/
theorem exited_or_taken_of_left {begun later : Crew} {joiner : Joiner} {call : Call}
    (reached : Reachable limit begun)
    (runs : Runs limit (fun _ => True) { begun with joiners := begun.joiners ++ [{}] } later)
    (returned : later.joiners[begun.joiners.length]? = some joiner) (left : joiner.next = .left)
    (found : begun.calls[place]? = some call) (completed : call.stage = .started worker) :
    ∃ now, later.calls[place]? = some now ∧
      (now.thread.hasExited ∨ ∃ index other, index ≠ begun.joiners.length ∧
        later.joiners[index]? = some other ∧ place ∈ other.batch) := by
  have passed : Passed place worker begun.joiners.length later := by
    refine runs.preserve (Passed place worker begun.joiners.length)
      ⟨⟨call, found, completed⟩, {}, List.getElem?_concat_length, by simp⟩ ?_
    exact fun _ _ _ _ step passed => passed.step step
  obtain ⟨now, there, stage⟩ := passed.started
  have joined := reached.step trivial (Step.join)
  have accounted := accounted_of_reachable (joined.trans runs)
  refine ⟨now, there, ?_⟩
  -- The handle is not in the pool any more, nor in the batch of the join that returned.
  have present : now.thread ≠ .absent :=
    (accounted.coherent now (List.mem_of_getElem? there)).mpr (by rw [stage]; rfl)
  rcases accounted.held place now there present with ⟨other, keeping⟩ | kept | taken | exited
  · rw [stage] at keeping
    cases keeping
  · obtain ⟨same, here, none⟩ := passed.emptied
    rw [returned] at here
    cases here
    exact absurd kept (none (.inr left))
  · obtain ⟨other, member, batch⟩ := List.mem_flatMap.mp taken
    obtain ⟨index, here⟩ := List.mem_iff_getElem?.mp member
    refine .inr ⟨index, other, ?_, here, batch⟩
    rintro rfl
    rw [returned] at here
    cases here
    rw [accounted.emptied joiner member (.inr left)] at batch
    cases batch
  · exact .inl (by rw [exited]; rfl)

/-- A main context started a worker, and a join took its handle. -/
def takenOver : Crew :=
  { oneStarted with
    pool := oneStarted.pool.takeHandles.2
    kept := []
    joiners := [{ batch := [0] }] }

/-- A second join found no handle and returned. -/
def returnedEarly : Crew :=
  { takenOver with joiners := [{ batch := [0] }, { next := .left }] }

theorem reachable_takenOver : Reachable none takenOver := by
  have started : Reachable none oneStarted := runs_oneStarted.mono fun _ _ => trivial
  have take : Step none { oneStarted with joiners := [{}] } (.joiner 0) _ :=
    .take rfl rfl rfl (by decide)
  have taken : Reachable none _ := (started.step trivial .join).step trivial take
  exact taken

theorem runs_returnedEarly :
    Runs none (fun _ => True) { takenOver with joiners := takenOver.joiners ++ [{}] }
      returnedEarly := by
  have take : Step none { takenOver with joiners := [{ batch := [0] }, {}] } (.joiner 1) _ :=
    .takeNone rfl rfl rfl rfl
  have leave : Step none { takenOver with joiners := [{ batch := [0] }, { next := .leaving }] }
    (.joiner 1) _ := .leave rfl rfl
  have left : Runs none (fun _ => True) _ _ := (Runs.refl.step trivial take).step trivial leave
  exact left

/-- The handle of the worker is with the join that took it. -/
theorem taken_of_returnedEarly :
    ∃ index other, index ≠ 1 ∧ returnedEarly.joiners[index]? = some other ∧ 0 ∈ other.batch := by
  have found : takenOver.calls[0]? = some _ := rfl
  obtain ⟨now, there, exited | taken⟩ := exited_or_taken_of_left reachable_takenOver
    runs_returnedEarly rfl rfl found rfl
  · cases there
    cases exited
  · exact taken

/-- A join need not wait for a worker that was started before it began: its thread has not
made a step. -/
theorem not_every_join_waits :
    ¬ ∀ (limit : Option UInt32) (begun later : Crew) (joiner : Joiner) (place : Nat) (call : Call)
      (worker : UInt32), Reachable limit begun →
      Runs limit (fun _ => True) { begun with joiners := begun.joiners ++ [{}] } later →
      later.joiners[begun.joiners.length]? = some joiner → joiner.next = .left →
      begun.calls[place]? = some call → call.stage = .started worker →
      ∃ now, later.calls[place]? = some now ∧ now.thread.hasExited := by
  intro waits
  obtain ⟨now, there, exited⟩ := waits none takenOver returnedEarly _ 0 _ 1 reachable_takenOver
    runs_returnedEarly rfl rfl rfl rfl
  cases there
  cases exited

end Crew

end WasmBridge
