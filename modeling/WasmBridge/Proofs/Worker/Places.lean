import Mathlib.Data.List.Nodup
import WasmBridge.Proofs.Worker.Interleaving

/-!
# Places of workers

Whoever starts a worker claims a place in the pool before anything else.  The place is
given back once: by the thread when it exits, or by the caller when the thread was
refused.  In every order of the steps the pool counts the places that are held, and the
workers it numbered have different numbers.
-/

namespace WasmBridge

namespace Pool

variable {limit : Option UInt32} {pool claimed : Pool}

theorem claim_eq_ok_iff :
    pool.claim limit = .ok claimed ↔
      claimed = { pool with active := pool.active + 1 } ∧
        ∀ bound, limit = some bound → pool.active < bound.toNat := by
  cases limit with
  | none => simp [claim, eq_comm]
  | some bound =>
      by_cases full : bound.toNat ≤ pool.active
      · simp [claim, full]
      · simp [claim, full, eq_comm, Nat.lt_of_not_le full]

theorem full_of_claim_eq_error {fault : Fault} (denied : pool.claim limit = .error fault) :
    ∃ bound, limit = some bound ∧ bound.toNat ≤ pool.active := by
  cases limit with
  | none => cases denied
  | some bound =>
      refine ⟨bound, rfl, ?_⟩
      by_contra free
      rw [claim, if_neg free] at denied
      cases denied

end Pool

namespace Crew

variable {limit : Option UInt32} {crew later : Crew} {actor : Actor} {pool after : Pool}
  {call altered : Call}

/-! ## Places that are held -/

/-- Whether the thread made its last step. -/
def Progress.hasExited : Progress → Bool
  | .exited _ => true
  | _ => false

/-- Whether a call has a place: it claimed one, its thread did not exit, and it was not
refused a thread.  A thread exits, and a refusal is settled, with the step that gives the
place back. -/
def Call.holdsPlace (call : Call) : Bool :=
  match call.stage with
  | .claiming | .turnedAway _ | .recordingFailure _ | .refused _ => false
  | .keeping _ | .started _ => !call.thread.hasExited
  | .numbering | .recordingIdle _ | .recordingSpawning _ | .starting _ | .givingBack _ => true

/-- Whether a call passed the claim of a place. -/
def Stage.isPastClaim : Stage → Bool
  | .claiming | .turnedAway _ => false
  | _ => true

/-- Whether the call was refused a thread. -/
def Stage.isRefused : Stage → Bool
  | .givingBack _ | .recordingFailure _ | .refused _ => true
  | _ => false

/-- Whether a call passed the claim of a place, and its thread neither exited nor was
refused. -/
def Call.isOut (call : Call) : Bool :=
  call.stage.isPastClaim && !call.thread.hasExited && !call.stage.isRefused

/-- Whether the thread of a call was refused and the place is not given back yet. -/
def Call.isGivingBack (call : Call) : Bool :=
  match call.stage with
  | .givingBack _ => true
  | _ => false

/-- Whether the next step of the thread or of the caller gives the place back. -/
def Call.givesBackNext (call : Call) : Bool :=
  match call.stage with
  | .givingBack _ => true
  | .keeping _ | .started _ => call.thread == .ended || call.thread == .panicking
  | _ => false

theorem Call.holdsPlace_of_givesBackNext (next : call.givesBackNext) : call.holdsPlace := by
  obtain ⟨caller, launch, stage, thread⟩ := call
  cases stage <;> cases thread <;> simp_all [givesBackNext, holdsPlace, Progress.hasExited]

theorem Call.holdsPlace_of_hasThread (has : call.stage.hasThread) :
    call.holdsPlace = !call.thread.hasExited := by
  obtain ⟨caller, launch, stage, thread⟩ := call
  cases stage <;> first | rfl | cases has

/-- A place is held for a thread that may still run, or by a call that was refused one and did
not give the place back yet. -/
theorem Call.toNat_holdsPlace (coherent : call.Coherent) :
    call.holdsPlace.toNat = call.isOut.toNat + call.isGivingBack.toNat := by
  obtain ⟨caller, launch, stage, thread⟩ := call
  unfold Call.Coherent at coherent
  cases stage <;> cases thread <;>
    simp_all [holdsPlace, isOut, isGivingBack, Stage.isPastClaim, Stage.isRefused,
      Stage.hasThread, Progress.hasExited]

theorem toNat_eq_ite (holds : Bool) : holds.toNat = if holds then 1 else 0 := by
  cases holds <;> rfl

theorem countP_holdsPlace {calls : List Call} (coherent : ∀ call ∈ calls, call.Coherent) :
    calls.countP Call.holdsPlace =
      calls.countP Call.isOut + calls.countP Call.isGivingBack := by
  induction calls with
  | nil => rfl
  | cons call calls ih =>
      obtain ⟨first, rest⟩ := List.forall_mem_cons.mp coherent
      have here := Call.toNat_holdsPlace first
      rw [toNat_eq_ite, toNat_eq_ite, toNat_eq_ite] at here
      rw [List.countP_cons, List.countP_cons, List.countP_cons, ih rest, here]
      omega

theorem Works.active (works : Works pool call after altered) (coherent : call.Coherent)
    {held : Nat} (counted : pool.active = call.holdsPlace.toNat + held) :
    after.active = altered.holdsPlace.toNat + held := by
  obtain ⟨present, -, stage, -⟩ := works.frame
  have has : call.stage.hasThread := coherent.mp present
  rw [Call.holdsPlace_of_hasThread has] at counted
  rw [Call.holdsPlace_of_hasThread (by rw [stage]; exact has)]
  cases works with
  | boot named thread => simpa [thread, Progress.hasExited, Pool.setPhase] using counted
  | run named thread => simpa [thread, Progress.hasExited, Pool.setPhase] using counted
  | finish named thread => simpa [thread, Progress.hasExited, Pool.setPhase] using counted
  | fail named thread =>
      cases progress : call.thread <;>
        simp_all [Progress.isInGuest, Progress.hasExited, Pool.setPhase]
  | panic thread =>
      cases progress : call.thread <;> simp_all [Progress.mayPanic, Progress.hasExited]
  | exit thread => simp_all [Progress.hasExited, Pool.giveBack]
  | unwind thread => simp_all [Progress.hasExited, Pool.giveBack]

theorem Spawns.active (spawns : Spawns limit pool call after altered)
    {held : Nat} (counted : pool.active = call.holdsPlace.toNat + held) :
    after.active = altered.holdsPlace.toNat + held := by
  cases spawns with
  | claim stage granted =>
      obtain ⟨rfl, -⟩ := Pool.claim_eq_ok_iff.mp granted
      simp_all [Call.holdsPlace, Nat.add_comm]
  | giveBack stage => simp_all [Call.holdsPlace, Pool.giveBack]
  | start stage => simp_all [Call.holdsPlace, Pool.start, Progress.hasExited]
  | _ => simp_all [Call.holdsPlace, Pool.setPhase, Pool.allocate]

/-- A step changes the count of the pool as it changes whether the call has a place. -/
theorem Alters.active (alters : Alters limit pool call after altered) (coherent : call.Coherent)
    {held : Nat} (counted : pool.active = call.holdsPlace.toNat + held) :
    after.active = altered.holdsPlace.toNat + held := by
  cases alters with
  | spawns spawns => exact spawns.active counted
  | keeps stage => simp_all [Call.holdsPlace, Pool.pushHandle]
  | works works => exact works.active coherent counted
  | records named thread =>
      have has : call.stage.hasThread := coherent.mp (by simp [thread])
      have left : ({ call with thread := .exited false } : Call).holdsPlace = false :=
        Call.holdsPlace_of_hasThread has
      rw [Call.holdsPlace_of_hasThread has] at counted
      simpa [left, thread, Progress.hasExited, Pool.setPhase] using counted

/-- The count of the pool never passes the limit. -/
theorem Alters.within (alters : Alters limit pool call after altered) {bound : UInt32}
    (limited : limit = some bound) (within : pool.active ≤ bound.toNat) :
    after.active ≤ bound.toNat := by
  cases alters with
  | spawns spawns =>
      cases spawns with
      | claim stage granted =>
          obtain ⟨rfl, free⟩ := Pool.claim_eq_ok_iff.mp granted
          exact free bound limited
      | giveBack stage => exact Nat.le_trans (Nat.sub_le _ _) within
      | _ => exact within
  | keeps stage => exact within
  | works works =>
      cases works with
      | exit thread => exact Nat.le_trans (Nat.sub_le _ _) within
      | unwind thread => exact Nat.le_trans (Nat.sub_le _ _) within
      | _ => exact within
  | records named thread => exact within

/-! ## Numbers of workers -/

/-- The numbers that were given to workers, by the places of the calls. -/
def numbers (crew : Crew) : List UInt32 :=
  crew.calls.filterMap Call.worker?

/-- A step keeps the number of a call or gives it the next one. -/
theorem Alters.worker? (alters : Alters limit pool call after altered) :
    (altered.worker? = call.worker? ∧ after.nextId = pool.nextId) ∨
      (call.worker? = none ∧ altered.worker? = some pool.nextId ∧
        after.nextId = pool.nextId + 1) := by
  cases alters with
  | spawns spawns =>
      cases spawns with
      | claim stage granted =>
          obtain ⟨rfl, -⟩ := Pool.claim_eq_ok_iff.mp granted
          exact .inl ⟨by simp [Call.worker?, stage], rfl⟩
      | number stage => exact .inr ⟨by simp [Call.worker?, stage], rfl, rfl⟩
      | turnAway stage => exact .inl ⟨by simp [Call.worker?, stage], rfl⟩
      | idle stage => exact .inl ⟨by simp [Call.worker?, stage], rfl⟩
      | spawning stage => exact .inl ⟨by simp [Call.worker?, stage], rfl⟩
      | start stage => exact .inl ⟨by simp [Call.worker?, stage], rfl⟩
      | refuse stage => exact .inl ⟨by simp [Call.worker?, stage], rfl⟩
      | giveBack stage => exact .inl ⟨by simp [Call.worker?, stage], rfl⟩
      | fail stage => exact .inl ⟨by simp [Call.worker?, stage], rfl⟩
  | keeps stage => exact .inl ⟨by simp [Call.worker?, stage], rfl⟩
  | works works => exact .inl (by cases works <;> exact ⟨rfl, rfl⟩)
  | records named thread => exact .inl ⟨rfl, rfl⟩

/-- The first so many numbers that a pool gives. -/
def firstNumbers (count : Nat) : List UInt32 :=
  (List.range' 1 count).map UInt32.ofNat

theorem firstNumbers_succ (count : Nat) :
    firstNumbers (count + 1) = firstNumbers count ++ [UInt32.ofNat (count + 1)] := by
  rw [firstNumbers, List.range'_concat, List.map_append, Nat.one_mul, Nat.add_comm 1]
  rfl

theorem nodup_firstNumbers {count : Nat} (few : count < UInt32.size) :
    (firstNumbers count).Nodup := by
  refine List.Nodup.map_on ?_ List.nodup_range'
  intro left leftIn right rightIn equal
  rw [List.mem_range'_1] at leftIn rightIn
  have words := congrArg UInt32.toNat equal
  rwa [UInt32.toNat_ofNat_of_lt' (by omega), UInt32.toNat_ofNat_of_lt' (by omega)] at words

theorem one_le_of_mem_firstNumbers {count : Nat} {worker : UInt32} (few : count < UInt32.size)
    (member : worker ∈ firstNumbers count) : 1 ≤ worker := by
  obtain ⟨number, within, rfl⟩ := List.mem_map.mp member
  rw [List.mem_range'_1] at within
  rw [UInt32.le_iff_toNat_le, UInt32.toNat_ofNat_of_lt' (by omega)]
  exact within.1

/-- A step keeps the numbers that were given, or gives the next one. -/
theorem Step.numbers (step : Step limit crew actor later) :
    (later.numbers.Perm crew.numbers ∧ later.pool.nextId = crew.pool.nextId) ∨
      (later.numbers.Perm (crew.pool.nextId :: crew.numbers) ∧
        later.pool.nextId = crew.pool.nextId + 1) := by
  unfold Crew.numbers
  rcases step.calls with ⟨call, stage, -, calls, pool⟩ |
    ⟨place, call, altered, found, alters, calls⟩ | ⟨calls, pool⟩
  · refine .inl ⟨?_, by rw [pool]⟩
    simp [calls, Call.worker?, stage]
  · obtain ⟨old, new⟩ := perm_set altered found
    have before := old.filterMap Call.worker?
    have now := new.filterMap Call.worker?
    rw [← calls] at now
    rcases alters.worker? with ⟨same, next⟩ | ⟨unnumbered, numbered, next⟩
    · refine .inl ⟨?_, next⟩
      rw [List.filterMap_cons, same, ← List.filterMap_cons] at now
      exact now.trans before.symm
    · refine .inr ⟨?_, next⟩
      rw [List.filterMap_cons_none unnumbered] at before
      rw [List.filterMap_cons_some numbered] at now
      exact now.trans (before.symm.cons _)
  · refine .inl ⟨by rw [calls], ?_⟩
    rcases pool with pool | pool
    · rw [pool]
    · rw [pool]
      rfl

/-! ## What every step preserves -/

theorem Step.active (step : Step limit crew actor later) (coherent : crew.Coherent)
    (counted : crew.pool.active = crew.calls.countP Call.holdsPlace) :
    later.pool.active = later.calls.countP Call.holdsPlace := by
  rcases step.calls with ⟨call, stage, -, calls, pool⟩ |
    ⟨place, call, altered, found, alters, calls⟩ | ⟨calls, pool⟩
  · rw [calls, pool, counted]
    simp [Call.holdsPlace, stage]
  · obtain ⟨old, new⟩ := perm_set altered found
    rw [old.countP_eq, List.countP_cons, ← toNat_eq_ite, Nat.add_comm] at counted
    rw [calls, new.countP_eq, List.countP_cons, ← toNat_eq_ite, Nat.add_comm]
    exact alters.active (coherent call (List.mem_of_getElem? found)) counted
  · rw [calls, ← counted]
    rcases pool with pool | pool
    · rw [pool]
    · rw [pool]
      rfl

theorem Step.within (step : Step limit crew actor later) {bound : UInt32}
    (limited : limit = some bound) (within : crew.pool.active ≤ bound.toNat) :
    later.pool.active ≤ bound.toNat := by
  rcases step.calls with ⟨call, stage, thread, calls, pool⟩ |
    ⟨place, call, altered, found, alters, calls⟩ | ⟨calls, pool⟩
  · rwa [pool]
  · exact alters.within limited within
  · rcases pool with pool | pool <;> rw [pool] <;> exact within

/-- The pool agrees with the calls. -/
structure Balanced (limit : Option UInt32) (crew : Crew) : Prop where
  coherent : crew.Coherent
  active : crew.pool.active = crew.calls.countP Call.holdsPlace
  within : ∀ bound, limit = some bound → crew.pool.active ≤ bound.toNat
  numbers : crew.numbers.Perm (firstNumbers crew.numbers.length)
  next : crew.pool.nextId = UInt32.ofNat (crew.numbers.length + 1)

theorem Balanced.step (balanced : Balanced limit crew) (step : Step limit crew actor later) :
    Balanced limit later where
  coherent := step.coherent balanced.coherent
  active := step.active balanced.coherent balanced.active
  within bound limited := step.within limited (balanced.within bound limited)
  numbers := by
    rcases step.numbers with ⟨same, -⟩ | ⟨more, -⟩
    · rw [same.length_eq]
      exact same.trans balanced.numbers
    · rw [more.length_eq, List.length_cons, firstNumbers_succ, ← balanced.next]
      exact (more.trans (balanced.numbers.cons _)).trans (List.perm_append_singleton _ _).symm
  next := by
    rcases step.numbers with ⟨same, next⟩ | ⟨more, next⟩
    · rw [same.length_eq, next]
      exact balanced.next
    · rw [more.length_eq, next, balanced.next, List.length_cons]
      exact (UInt32.ofNat_add _ 1).symm

theorem balanced_of_reachable (reached : Reachable limit crew) : Balanced limit crew :=
  reached.preserve (Balanced limit)
    ⟨coherent_empty, rfl, fun _ _ => Nat.zero_le _, List.Perm.refl _, rfl⟩
    fun _ _ _ _ step balanced => balanced.step step

theorem Alters.denied (alters : Alters limit pool call after altered) {fault : Fault}
    (claiming : call.stage = .claiming) (turned : altered.stage = .turnedAway fault) :
    (∃ bound, limit = some bound ∧ bound.toNat ≤ pool.active) ∧ after = pool := by
  cases alters with
  | spawns spawns =>
      cases spawns with
      | turnAway stage denied => exact ⟨Pool.full_of_claim_eq_error denied, rfl⟩
      | _ => cases turned
  | keeps stage => cases turned
  | works works =>
      obtain ⟨-, -, stage, -⟩ := works.frame
      rw [stage, claiming] at turned
      cases turned
  | records named thread =>
      rw [claiming] at turned
      cases turned

/-- A claim is denied only where the limit is reached, and leaves the pool as it was. -/
theorem Step.of_turnedAway (step : Step limit crew actor later) {place : Nat} {fault : Fault}
    (found : crew.calls[place]? = some call) (claiming : call.stage = .claiming)
    (turned : later.calls[place]? = some { call with stage := .turnedAway fault }) :
    (∃ bound, limit = some bound ∧ bound.toNat ≤ crew.pool.active) ∧
      later.pool = crew.pool := by
  have moved : later.calls[place]? ≠ crew.calls[place]? := by
    rw [turned, found]
    intro same
    have stage := congrArg Call.stage (Option.some.inj same)
    rw [claiming] at stage
    cases stage
  rcases step.calls with ⟨added, -, -, calls, -⟩ | ⟨other, before, altered, there, alters, calls⟩ |
    ⟨calls, -⟩
  · have within := (List.getElem?_eq_some_iff.mp found).1
    exact absurd (by rw [calls, List.getElem?_append_left within]) moved
  · by_cases same : other = place
    · subst same
      rw [found] at there
      cases there
      rw [calls, List.getElem?_set_self (List.getElem?_eq_some_iff.mp found).1] at turned
      exact alters.denied claiming (congrArg Call.stage (Option.some.inj turned))
    · exact absurd (by rw [calls, List.getElem?_set_ne same]) moved
  · exact absurd (by rw [calls]) moved

/-- In every order of the steps the pool counts the places that are held: those of calls whose
threads neither exited nor were refused, and those that are not given back yet since a thread
was refused.  The count never passes the limit, every place is there to be given back, a claim is
denied only at the limit and changes nothing, and workers have different numbers from 1 on until
the numbers run out. -/
theorem reachable_places (reached : Reachable limit crew) :
    crew.pool.active = crew.calls.countP Call.isOut + crew.calls.countP Call.isGivingBack ∧
      crew.pool.active = crew.calls.countP Call.holdsPlace ∧
      crew.calls.countP Call.givesBackNext ≤ crew.pool.active ∧
      (∀ bound, limit = some bound → crew.pool.active ≤ bound.toNat) ∧
      (∀ (actor : Actor) (later : Crew) (place : Nat) (call : Call) (fault : Fault),
        Step limit crew actor later → crew.calls[place]? = some call → call.stage = .claiming →
        later.calls[place]? = some { call with stage := .turnedAway fault } →
        (∃ bound, limit = some bound ∧ crew.pool.active = bound.toNat) ∧
          later.pool = crew.pool) ∧
      (crew.numbers.length < UInt32.size →
        crew.numbers.Nodup ∧ ∀ worker ∈ crew.numbers, 1 ≤ worker) := by
  have balanced := balanced_of_reachable reached
  refine ⟨?_, balanced.active, ?_, balanced.within, ?_, ?_⟩
  · rw [balanced.active]
    exact countP_holdsPlace balanced.coherent
  · rw [balanced.active]
    exact List.countP_mono_left fun call _ => Call.holdsPlace_of_givesBackNext
  · intro actor later place call fault step found claiming turned
    obtain ⟨⟨bound, limited, full⟩, same⟩ := step.of_turnedAway found claiming turned
    exact ⟨⟨bound, limited, Nat.le_antisymm (balanced.within bound limited) full⟩, same⟩
  · intro few
    refine ⟨balanced.numbers.nodup_iff.mpr (nodup_firstNumbers few), fun worker member => ?_⟩
    exact one_le_of_mem_firstNumbers few (balanced.numbers.mem_iff.mp member)

/-- A main context started a worker, and another one asks for a place. -/
def crowded : Crew where
  pool := {
    nextId := 2
    active := 1
    records := [(1, .spawning), (1, .idle)]
    handles := [1]
    started := [(1, ⟨0, 0, 0⟩)] }
  calls := [
    { caller := .main 0, launch := ⟨0, 0, 0⟩, stage := .started 1, thread := .begun },
    { caller := .main 1, launch := ⟨0, 0, 0⟩ }]
  kept := [0]

theorem reachable_crowded : Reachable (some 1) crowded := by
  have spawned : Pool.spawn {} (some 1) ⟨0, 0, 0⟩ = .ok (1, crowded.pool) := rfl
  have first : Runs (some 1) (· = .main 0) {} _ := runs_of_spawn ⟨by simp [Busy], trivial⟩ spawned
  refine .step (first.mono fun _ _ => trivial) trivial (.call ⟨0, 0, 0⟩ ⟨?_, trivial⟩)
  simp [Busy]

/-- With one place for workers, the place is held, and the second caller is turned away. -/
theorem reachable_places_crowded :
    Reachable (some 1) crowded ∧
      crowded.pool.active = 1 ∧ crowded.calls.countP Call.holdsPlace = 1 ∧
      crowded.calls.countP Call.isOut + crowded.calls.countP Call.isGivingBack = 1 ∧
      (∀ actor later fault, Step (some 1) crowded actor later →
        later.calls[1]? = some { caller := .main 1, launch := ⟨0, 0, 0⟩, stage := .turnedAway fault } →
        later.pool = crowded.pool) ∧
      crowded.numbers.Nodup := by
  obtain ⟨apart, counted, -, -, denied, different⟩ := reachable_places reachable_crowded
  refine ⟨reachable_crowded, rfl, counted.symm, apart.symm, fun actor later fault step turned => ?_, ?_⟩
  · exact (denied actor later 1 _ fault step rfl rfl turned).2
  · exact (different (by decide)).1

/-- A worker was refused its thread, and the place that was claimed for it is not given back
yet. -/
def turnedDown : Crew where
  pool := { nextId := 2, active := 1, records := [(1, .spawning), (1, .idle)] }
  calls := [{ caller := .main 0, launch := ⟨0, 0, 0⟩, stage := .givingBack 1 }]

theorem reachable_turnedDown : Reachable none turnedDown := by
  let asking : Call := { caller := .main 0, launch := ⟨0, 0, 0⟩ }
  have called : Reachable none (withCall {} {} asking) :=
    .step .refl trivial (.call ⟨0, 0, 0⟩ ⟨by simp [Busy], trivial⟩)
  exact ((((called.step trivial (Spawns.step_withCall (.claim rfl rfl))).step trivial
    (Spawns.step_withCall (.number rfl))).step trivial
    (Spawns.step_withCall (.idle rfl))).step trivial
    (Spawns.step_withCall (.spawning rfl))).step trivial
    (Spawns.step_withCall (.refuse rfl))

/-- Between the refusal of a thread and the release of its place, the place is counted though
nobody is out. -/
theorem not_every_place_is_out :
    ¬ ∀ (limit : Option UInt32) (crew : Crew), Reachable limit crew →
      crew.pool.active = crew.calls.countP Call.isOut := by
  intro counts
  have equal : (1 : Nat) = 0 := counts none turnedDown reachable_turnedDown
  cases equal

end Crew

end WasmBridge
