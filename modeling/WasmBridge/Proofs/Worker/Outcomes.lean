import WasmBridge.Proofs.Worker.Places

/-!
# Outcomes of workers

Of every worker that has a number the phase recorded last is final, or somebody is going to
record one: its caller, its thread, or whoever joins the thread.
-/

namespace WasmBridge

/-- Whether a worker is in the phase for good. -/
def Phase.isFinal : Phase → Bool
  | .finished | .failed => true
  | _ => false

namespace Crew

variable {limit : Option UInt32} {crew later : Crew} {actor : Actor} {pool after : Pool}
  {call altered : Call} {place : Nat}

/-! ## Who owes an outcome -/

/-- Whether the outcome of the thread is still to be recorded. -/
def Progress.owes : Progress → Bool
  | .begun | .bootstrapping | .running | .panicking | .exited true => true
  | .absent | .ended | .exited false => false

/-- Whether the outcome of the worker is still to be recorded. -/
def Call.owes (call : Call) : Bool :=
  match call.stage with
  | .claiming | .numbering | .turnedAway _ | .refused _ => false
  | .recordingIdle _ | .recordingSpawning _ | .starting _ | .givingBack _
  | .recordingFailure _ => true
  | .keeping _ | .started _ => call.thread.owes

/-- The outcome of a worker is recorded, or somebody owes it. -/
def Settling (crew : Crew) (worker : UInt32) : Prop :=
  (∃ call ∈ crew.calls, call.worker? = some worker ∧ call.owes) ∨
    ∃ phase, crew.pool.phase? worker = some phase ∧ phase.isFinal

theorem Call.owes_of_hasThread (has : call.stage.hasThread) : call.owes = call.thread.owes := by
  obtain ⟨caller, launch, stage, thread⟩ := call
  cases stage <;> first | rfl | cases has

theorem Works.owes (works : Works pool call after altered) (coherent : call.Coherent) :
    (after.records = pool.records ∧ altered.worker? = call.worker? ∧
      (call.owes → altered.owes)) ∨
    ∃ worker phase, call.worker? = some worker ∧ altered.worker? = some worker ∧
      after.records = (worker, phase) :: pool.records ∧ (phase.isFinal ∨ altered.owes) := by
  obtain ⟨present, -, stage, -⟩ := works.frame
  have has : call.stage.hasThread := coherent.mp present
  rw [Call.owes_of_hasThread has, Call.owes_of_hasThread (by rw [stage]; exact has)]
  cases works with
  | boot named thread => exact .inr ⟨_, _, named, named, rfl, .inr rfl⟩
  | run named thread => exact .inr ⟨_, _, named, named, rfl, .inr rfl⟩
  | finish named thread => exact .inr ⟨_, _, named, named, rfl, .inl rfl⟩
  | fail named thread => exact .inr ⟨_, _, named, named, rfl, .inl rfl⟩
  | panic thread => exact .inl ⟨rfl, rfl, fun _ => rfl⟩
  | exit thread =>
      refine .inl ⟨rfl, rfl, fun owes => ?_⟩
      rw [thread] at owes
      cases owes
  | unwind thread => exact .inl ⟨rfl, rfl, fun _ => rfl⟩

/-- A step records an outcome or leaves it owed. -/
theorem Alters.owes (alters : Alters limit pool call after altered) (coherent : call.Coherent) :
    (after.records = pool.records ∧
      (altered.worker? = call.worker? ∧ (call.owes → altered.owes) ∨
        call.worker? = none ∧ altered.owes)) ∨
    ∃ worker phase, call.worker? = some worker ∧ altered.worker? = some worker ∧
      after.records = (worker, phase) :: pool.records ∧ (phase.isFinal ∨ altered.owes) := by
  cases alters with
  | spawns spawns =>
      cases spawns with
      | claim stage granted =>
          obtain ⟨rfl, -⟩ := Pool.claim_eq_ok_iff.mp granted
          exact .inl ⟨rfl, .inl ⟨by simp [Call.worker?, stage], by simp [Call.owes, stage]⟩⟩
      | turnAway stage denied =>
          exact .inl ⟨rfl, .inl ⟨by simp [Call.worker?, stage], by simp [Call.owes, stage]⟩⟩
      | number stage => exact .inl ⟨rfl, .inr ⟨by simp [Call.worker?, stage], rfl⟩⟩
      | idle stage => exact .inr ⟨_, _, by simp [Call.worker?, stage], rfl, rfl, .inr rfl⟩
      | spawning stage => exact .inr ⟨_, _, by simp [Call.worker?, stage], rfl, rfl, .inr rfl⟩
      | start stage => exact .inl ⟨rfl, .inl ⟨by simp [Call.worker?, stage], fun _ => rfl⟩⟩
      | refuse stage => exact .inl ⟨rfl, .inl ⟨by simp [Call.worker?, stage], fun _ => rfl⟩⟩
      | giveBack stage => exact .inl ⟨rfl, .inl ⟨by simp [Call.worker?, stage], fun _ => rfl⟩⟩
      | fail stage => exact .inr ⟨_, _, by simp [Call.worker?, stage], rfl, rfl, .inl rfl⟩
  | keeps stage =>
      refine .inl ⟨rfl, .inl ⟨by simp [Call.worker?, stage], fun owes => ?_⟩⟩
      rw [Call.owes_of_hasThread (by simp [stage, Stage.hasThread])] at owes
      exact owes
  | works works =>
      rcases works.owes coherent with ⟨records, same, owes⟩ | recorded
      · exact .inl ⟨records, .inl ⟨same, owes⟩⟩
      · exact .inr recorded
  | records named thread => exact .inr ⟨_, _, named, named, rfl, .inl rfl⟩

theorem phase?_of_records {worker : UInt32} (records : after.records = pool.records) :
    after.phase? worker = pool.phase? worker := by
  rw [Pool.phase?, Pool.phase?, records]

theorem phase?_of_record {worker other : UInt32} {phase : Phase}
    (records : after.records = (other, phase) :: pool.records) :
    after.phase? worker = if worker = other then some phase else pool.phase? worker := by
  rw [Pool.phase?, Pool.phase?, records, List.lookup_cons]
  by_cases same : worker = other
  · simp [same]
  · simp [same, beq_eq_false_iff_ne.mpr same]

/-- A worker whose outcome is recorded or owed stays so. -/
theorem Settling.alter {worker : UInt32} (settling : crew.Settling worker)
    (coherent : crew.Coherent) (found : crew.calls[place]? = some call)
    (alters : Alters limit crew.pool call later.pool altered)
    (calls : later.calls = crew.calls.set place altered) : later.Settling worker := by
  obtain ⟨old, new⟩ := perm_set altered found
  rw [← calls] at new
  have here : altered ∈ later.calls := new.mem_iff.mpr (List.mem_cons_self ..)
  have elsewhere (other : Call) (member : other ∈ crew.calls) :
      other = call ∨ other ∈ later.calls := by
    rcases List.mem_cons.mp (old.mem_iff.mp member) with same | rest
    · exact .inl same
    · exact .inr (new.mem_iff.mpr (List.mem_cons_of_mem _ rest))
  rcases alters.owes (coherent call (List.mem_of_getElem? found)) with
    ⟨records, kept⟩ | ⟨recorded, phase, named, renamed, records, outcome⟩
  · rcases settling with ⟨other, member, numbered, owes⟩ | ⟨phase, found, final⟩
    · rcases elsewhere other member with rfl | still
      · rcases kept with ⟨same, owed⟩ | ⟨unnumbered, -⟩
        · exact .inl ⟨altered, here, by rw [same, numbered], owed owes⟩
        · rw [numbered] at unnumbered
          cases unnumbered
      · exact .inl ⟨other, still, numbered, owes⟩
    · exact .inr ⟨phase, by rwa [phase?_of_records records], final⟩
  · by_cases same : worker = recorded
    · subst same
      rcases outcome with final | owes
      · exact .inr ⟨phase, by simp [phase?_of_record records], final⟩
      · exact .inl ⟨altered, here, renamed, owes⟩
    · rcases settling with ⟨other, member, numbered, owes⟩ | ⟨phase, found, final⟩
      · rcases elsewhere other member with rfl | still
        · rw [named] at numbered
          exact absurd (Option.some.inj numbered).symm same
        · exact .inl ⟨other, still, numbered, owes⟩
      · exact .inr ⟨phase, by rw [phase?_of_record records, if_neg same, found], final⟩

/-- The outcome of every worker is recorded or owed. -/
def AllSettling (crew : Crew) : Prop :=
  ∀ call ∈ crew.calls, ∀ worker, call.worker? = some worker → crew.Settling worker

theorem Step.settling (step : Step limit crew actor later) (coherent : crew.Coherent)
    (settling : crew.AllSettling) : later.AllSettling := by
  intro other among worker numbered
  rcases step.calls with ⟨added, stage, -, calls, pool⟩ |
    ⟨place, call, altered, found, alters, calls⟩ | ⟨calls, pool⟩
  · rw [calls, List.mem_append, List.mem_singleton] at among
    rcases among with old | rfl
    · rcases settling other old worker numbered with ⟨owing, member, named, owes⟩ | recorded
      · exact .inl ⟨owing, by simp [calls, member], named, owes⟩
      · exact .inr (by rwa [pool])
    · simp [Call.worker?, stage] at numbered
  · rw [calls] at among
    rcases List.mem_or_eq_of_mem_set among with old | rfl
    · exact (settling other old worker numbered).alter coherent found alters calls
    · have member := List.mem_of_getElem? found
      rcases alters.owes (coherent call member) with
        ⟨-, ⟨same, -⟩ | ⟨-, owes⟩⟩ | ⟨recorded, phase, named, renamed, -⟩
      · rw [same] at numbered
        exact (settling call member worker numbered).alter coherent found alters calls
      · refine .inl ⟨other, ?_, numbered, owes⟩
        rw [calls]
        exact List.mem_set (List.getElem?_eq_some_iff.mp found).1 other
      · rw [renamed] at numbered
        cases numbered
        exact (settling call member _ named).alter coherent found alters calls
  · rw [calls] at among
    rcases settling other among worker numbered with ⟨owing, member, named, owes⟩ | recorded
    · exact .inl ⟨owing, by rwa [calls], named, owes⟩
    · refine .inr ?_
      rcases pool with pool | pool <;> (rw [pool]; exact recorded)

theorem settling_of_reachable (reached : Reachable limit crew) : crew.AllSettling := by
  have both : crew.Coherent ∧ crew.AllSettling := by
    refine reached.preserve (fun crew => crew.Coherent ∧ crew.AllSettling)
      ⟨coherent_empty, fun _ member => absurd member List.not_mem_nil⟩ ?_
    rintro actor before after - step ⟨coherent, settling⟩
    exact ⟨step.coherent coherent, step.settling coherent settling⟩
  exact both.2

/-! ## Whose phases are recorded -/

/-- Every phase that is recorded is that of a worker with a number. -/
def Recorded (crew : Crew) : Prop :=
  ∀ record ∈ crew.pool.records, record.1 ∈ crew.numbers

theorem Step.mem_numbers (step : Step limit crew actor later) {worker : UInt32}
    (member : worker ∈ crew.numbers) : worker ∈ later.numbers := by
  rcases step.numbers with ⟨same, -⟩ | ⟨more, -⟩
  · exact same.mem_iff.mpr member
  · exact more.mem_iff.mpr (List.mem_cons_of_mem _ member)

theorem Step.recorded (step : Step limit crew actor later) (coherent : crew.Coherent)
    (recorded : crew.Recorded) : later.Recorded := by
  have old (record : UInt32 × Phase) (member : record ∈ crew.pool.records) :
      record.1 ∈ later.numbers := step.mem_numbers (recorded record member)
  intro record member
  rcases step.calls with ⟨added, -, -, -, pool⟩ | ⟨place, call, altered, found, alters, calls⟩ |
    ⟨-, pool⟩
  · exact old record (by rwa [pool] at member)
  · have here : altered ∈ later.calls := by
      rw [calls]
      exact List.mem_set (List.getElem?_eq_some_iff.mp found).1 altered
    rcases alters.owes (coherent call (List.mem_of_getElem? found)) with
      ⟨records, -⟩ | ⟨worker, phase, -, named, records, -⟩
    · exact old record (by rwa [records] at member)
    · rw [records] at member
      rcases List.mem_cons.mp member with rfl | before
      · exact List.mem_filterMap.mpr ⟨altered, here, named⟩
      · exact old record before
  · refine old record ?_
    rcases pool with pool | pool <;> (rw [pool] at member; exact member)

theorem recorded_of_reachable (reached : Reachable limit crew) : crew.Recorded := by
  have both : crew.Coherent ∧ crew.Recorded := by
    refine reached.preserve (fun crew => crew.Coherent ∧ crew.Recorded)
      ⟨coherent_empty, fun _ member => absurd member List.not_mem_nil⟩ ?_
    rintro actor before after - step ⟨coherent, recorded⟩
    exact ⟨step.coherent coherent, step.recorded coherent recorded⟩
  exact both.2

/-- A worker that is in a phase has a number. -/
theorem Recorded.mem_numbers (recorded : crew.Recorded) {worker : UInt32} {phase : Phase}
    (found : crew.pool.phase? worker = some phase) : worker ∈ crew.numbers := by
  obtain ⟨before, after, split, -⟩ := List.lookup_eq_some_iff.mp found
  exact recorded (worker, phase) (by rw [split]; exact List.mem_append_right _ List.mem_cons_self)

end Crew

end WasmBridge
