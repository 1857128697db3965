import WasmBridge.Proofs.Lists
import WasmBridge.Worker.Pool

/-!
# Workers, those who start them and those who join them

The pool of a host is worked on by many at a time: main contexts and workers start
workers, the threads of workers record how far they came and give their places back, and
whoever joins workers takes their handles.  Every operation of the pool is one step, and
a run is any order of such steps.
-/

namespace WasmBridge

namespace Crew

/-- Who makes a step. -/
inductive Actor where
  | main (index : Nat)
  /-- The worker that was started by the call at a place. -/
  | worker (place : Nat)
  | joiner (index : Nat)
deriving DecidableEq

/-- How far a call has come that starts a worker. -/
inductive Stage where
  | claiming
  | numbering
  | recordingIdle (worker : UInt32)
  | recordingSpawning (worker : UInt32)
  | starting (worker : UInt32)
  /-- The thread was started, and the pool does not have its handle yet. -/
  | keeping (worker : UInt32)
  /-- The thread was refused. -/
  | givingBack (worker : UInt32)
  | recordingFailure (worker : UInt32)
  | turnedAway (fault : Fault)
  | started (worker : UInt32)
  | refused (worker : UInt32)
deriving DecidableEq

/-- How far the thread of a worker has come. -/
inductive Progress where
  | absent
  | begun
  | bootstrapping
  | running
  /-- The outcome is recorded. -/
  | ended
  | panicking
  /-- The place is given back.  A panic is noted until it is recorded by whoever joins
  the thread. -/
  | exited (panicked : Bool)
deriving DecidableEq

/-- A call that starts a worker. -/
structure Call where
  caller : Actor
  launch : Wire.Launch
  stage : Stage := .claiming
  thread : Progress := .absent
deriving DecidableEq

/-- What a call that joins workers does next. -/
inductive Joining where
  /-- Joins the first thread of its batch, or takes a batch if that is empty. -/
  | collecting
  /-- Records that the first thread of its batch panicked. -/
  | recording
  | leaving
  | left
deriving DecidableEq

/-- A call that joins workers. -/
structure Joiner where
  joined : Nat := 0
  /-- The places of the threads it took and did not join yet. -/
  batch : List Nat := []
  next : Joining := .collecting
deriving DecidableEq

/-- The number of the worker, once it has one. -/
def Call.worker? (call : Call) : Option UInt32 :=
  match call.stage with
  | .claiming | .numbering | .turnedAway _ => none
  | .recordingIdle worker | .recordingSpawning worker | .starting worker | .keeping worker
  | .givingBack worker | .recordingFailure worker | .started worker | .refused worker =>
    some worker

/-- Whether the call has still something to do. -/
def Stage.isBusy : Stage → Bool
  | .turnedAway _ | .started _ | .refused _ => false
  | _ => true

/-- Whether the guest of the thread may run. -/
def Progress.isInGuest : Progress → Bool
  | .bootstrapping | .running => true
  | _ => false

/-- Whether the thread may panic. -/
def Progress.mayPanic : Progress → Bool
  | .begun | .bootstrapping | .running | .ended => true
  | _ => false

end Crew

/-- A pool and everyone who works on it. -/
structure Crew where
  pool : Pool := {}
  calls : List Crew.Call := []
  /-- The places of the threads whose handles the pool has, in the order of the handles. -/
  kept : List Nat := []
  joiners : List Crew.Joiner := []
deriving DecidableEq

namespace Crew

/-- A call of the caller is under way. -/
def Busy (crew : Crew) (caller : Actor) : Prop :=
  ∃ call ∈ crew.calls, call.caller = caller ∧ call.stage.isBusy

/-- Whether somebody may start a worker: one at a time, and a worker only while its guest
may run. -/
def MayCall (crew : Crew) (caller : Actor) : Prop :=
  ¬ crew.Busy caller ∧
    match caller with
    | .main _ => True
    | .worker place => ∃ call, crew.calls[place]? = some call ∧ call.thread.isInGuest
    | .joiner _ => False

/-- A step of a caller on its way to start a worker, up to the keeping of the handle. -/
inductive Spawns (limit : Option UInt32) (pool : Pool) (call : Call) : Pool → Call → Prop where
  | claim {claimed : Pool} (stage : call.stage = .claiming)
      (granted : pool.claim limit = .ok claimed) :
      Spawns limit pool call claimed { call with stage := .numbering }
  | turnAway {fault : Fault} (stage : call.stage = .claiming)
      (denied : pool.claim limit = .error fault) :
      Spawns limit pool call pool { call with stage := .turnedAway fault }
  | number (stage : call.stage = .numbering) :
      Spawns limit pool call pool.allocate.2 { call with stage := .recordingIdle pool.allocate.1 }
  | idle {worker : UInt32} (stage : call.stage = .recordingIdle worker) :
      Spawns limit pool call (pool.setPhase worker .idle)
        { call with stage := .recordingSpawning worker }
  | spawning {worker : UInt32} (stage : call.stage = .recordingSpawning worker) :
      Spawns limit pool call (pool.setPhase worker .spawning)
        { call with stage := .starting worker }
  | start {worker : UInt32} (stage : call.stage = .starting worker) :
      Spawns limit pool call (pool.start worker call.launch)
        { call with stage := .keeping worker, thread := .begun }
  | refuse {worker : UInt32} (stage : call.stage = .starting worker) :
      Spawns limit pool call pool { call with stage := .givingBack worker }
  | giveBack {worker : UInt32} (stage : call.stage = .givingBack worker) :
      Spawns limit pool call pool.giveBack { call with stage := .recordingFailure worker }
  | fail {worker : UInt32} (stage : call.stage = .recordingFailure worker) :
      Spawns limit pool call (pool.setPhase worker .failed)
        { call with stage := .refused worker }

/-- A step of the thread that a call started. -/
inductive Works (pool : Pool) (call : Call) : Pool → Call → Prop where
  | boot {worker : UInt32} (named : call.worker? = some worker) (thread : call.thread = .begun) :
      Works pool call (pool.setPhase worker .bootstrapping)
        { call with thread := .bootstrapping }
  | run {worker : UInt32} (named : call.worker? = some worker)
      (thread : call.thread = .bootstrapping) :
      Works pool call (pool.setPhase worker .running) { call with thread := .running }
  | finish {worker : UInt32} (named : call.worker? = some worker)
      (thread : call.thread = .running) :
      Works pool call (pool.setPhase worker .finished) { call with thread := .ended }
  | fail {worker : UInt32} (named : call.worker? = some worker)
      (thread : call.thread.isInGuest) :
      Works pool call (pool.setPhase worker .failed) { call with thread := .ended }
  | panic (thread : call.thread.mayPanic) :
      Works pool call pool { call with thread := .panicking }
  | exit (thread : call.thread = .ended) :
      Works pool call pool.giveBack { call with thread := .exited false }
  | unwind (thread : call.thread = .panicking) :
      Works pool call pool.giveBack { call with thread := .exited true }

/-- A step of somebody. -/
inductive Step (limit : Option UInt32) (crew : Crew) : Actor → Crew → Prop where
  | call {caller : Actor} (launch : Wire.Launch) (free : crew.MayCall caller) :
      Step limit crew caller { crew with calls := crew.calls ++ [{ caller, launch }] }
  | spawn {place : Nat} {call later : Call} {pool : Pool} (found : crew.calls[place]? = some call)
      (spawns : Spawns limit crew.pool call pool later) :
      Step limit crew call.caller { crew with pool, calls := crew.calls.set place later }
  | keep {place : Nat} {call : Call} {worker : UInt32} (found : crew.calls[place]? = some call)
      (stage : call.stage = .keeping worker) :
      Step limit crew call.caller { crew with
        pool := crew.pool.pushHandle worker
        calls := crew.calls.set place { call with stage := .started worker }
        kept := crew.kept ++ [place] }
  | work {place : Nat} {call later : Call} {pool : Pool} (found : crew.calls[place]? = some call)
      (free : ¬ crew.Busy (.worker place)) (works : Works crew.pool call pool later) :
      Step limit crew (.worker place) { crew with pool, calls := crew.calls.set place later }
  | join : Step limit crew (.joiner crew.joiners.length)
      { crew with joiners := crew.joiners ++ [{}] }
  | take {index : Nat} {joiner : Joiner} (found : crew.joiners[index]? = some joiner)
      (next : joiner.next = .collecting) (empty : joiner.batch = [])
      (some : crew.pool.takeHandles.1 ≠ []) :
      Step limit crew (.joiner index) { crew with
        pool := crew.pool.takeHandles.2
        kept := []
        joiners := crew.joiners.set index { joiner with batch := crew.kept } }
  | takeNone {index : Nat} {joiner : Joiner} (found : crew.joiners[index]? = some joiner)
      (next : joiner.next = .collecting) (empty : joiner.batch = [])
      (none : crew.pool.takeHandles.1 = []) :
      Step limit crew (.joiner index) { crew with
        pool := crew.pool.takeHandles.2
        kept := []
        joiners := crew.joiners.set index { joiner with next := .leaving } }
  | collect {index place : Nat} {rest : List Nat} {joiner : Joiner} {call : Call}
      (found : crew.joiners[index]? = some joiner) (next : joiner.next = .collecting)
      (batch : joiner.batch = place :: rest) (met : crew.calls[place]? = some call)
      (thread : call.thread = .exited false) :
      Step limit crew (.joiner index) { crew with
        joiners := crew.joiners.set index { joiner with joined := joiner.joined + 1, batch := rest } }
  | notice {index place : Nat} {rest : List Nat} {joiner : Joiner} {call : Call}
      (found : crew.joiners[index]? = some joiner) (next : joiner.next = .collecting)
      (batch : joiner.batch = place :: rest) (met : crew.calls[place]? = some call)
      (thread : call.thread = .exited true) :
      Step limit crew (.joiner index) { crew with
        joiners := crew.joiners.set index { joiner with next := .recording } }
  | record {index place : Nat} {rest : List Nat} {joiner : Joiner} {call : Call} {worker : UInt32}
      (found : crew.joiners[index]? = some joiner) (next : joiner.next = .recording)
      (batch : joiner.batch = place :: rest) (met : crew.calls[place]? = some call)
      (named : call.worker? = some worker) (thread : call.thread = .exited true) :
      Step limit crew (.joiner index) { crew with
        pool := crew.pool.setPhase worker .failed
        calls := crew.calls.set place { call with thread := .exited false }
        joiners := crew.joiners.set index
          { joiner with joined := joiner.joined + 1, batch := rest, next := .collecting } }
  | leave {index : Nat} {joiner : Joiner} (found : crew.joiners[index]? = some joiner)
      (next : joiner.next = .leaving) :
      Step limit crew (.joiner index)
        { crew with joiners := crew.joiners.set index { joiner with next := .left } }

/-- Some steps of those who may, one after the other. -/
inductive Runs (limit : Option UInt32) (may : Actor → Prop) (crew : Crew) : Crew → Prop where
  | refl : Runs limit may crew crew
  | step {middle later : Crew} {actor : Actor} (runs : Runs limit may crew middle)
      (allowed : may actor) (step : Step limit middle actor later) : Runs limit may crew later

variable {limit : Option UInt32} {may : Actor → Prop} {crew later : Crew}

/-- What every step of those who may preserves holds at the end of a run if it held at the
beginning. -/
theorem Runs.preserve (holds : Crew → Prop) (runs : Runs limit may crew later)
    (first : holds crew)
    (kept : ∀ actor before after, may actor → Step limit before actor after → holds before →
      holds after) : holds later := by
  induction runs with
  | refl => exact first
  | step _ allowed step ih => exact kept _ _ _ allowed step ih

theorem Runs.trans {last : Crew} (first : Runs limit may crew later)
    (second : Runs limit may later last) : Runs limit may crew last := by
  induction second with
  | refl => exact first
  | step _ allowed step ih => exact .step ih allowed step

theorem Runs.mono {mayToo : Actor → Prop} (runs : Runs limit may crew later)
    (weaker : ∀ actor, may actor → mayToo actor) : Runs limit mayToo crew later := by
  induction runs with
  | refl => exact .refl
  | step _ allowed step ih => exact .step ih (weaker _ allowed) step

/-- What the pool and those who work on it can come to. -/
def Reachable (limit : Option UInt32) (crew : Crew) : Prop :=
  Runs limit (fun _ => True) {} crew

/-! ## A worker that is started in a row -/

/-- The crew with another pool and one more call. -/
def withCall (crew : Crew) (pool : Pool) (call : Call) : Crew :=
  { crew with pool, calls := crew.calls ++ [call] }

theorem getElem?_withCall (crew : Crew) (pool : Pool) (call : Call) :
    (crew.withCall pool call).calls[crew.calls.length]? = some call := by
  simp [withCall]

theorem set_withCall (calls : List Call) (call after : Call) :
    (calls ++ [call]).set calls.length after = calls ++ [after] := by
  simp

theorem Spawns.step_withCall {pool after : Pool} {call altered : Call}
    (spawns : Spawns limit pool call after altered) :
    Step limit (crew.withCall pool call) call.caller (crew.withCall after altered) := by
  have step := Step.spawn (getElem?_withCall crew pool call) spawns
  unfold withCall at step ⊢
  rwa [set_withCall] at step

variable {caller : Actor} {launch : Wire.Launch}

/-- To start a worker as a whole is to make the steps of a caller in a row. -/
theorem runs_of_spawn {worker : UInt32} {pool : Pool} (free : crew.MayCall caller)
    (spawned : crew.pool.spawn limit launch = .ok (worker, pool)) :
    Runs limit (· = caller) crew { crew with
      pool
      calls := crew.calls ++ [{ caller, launch, stage := .started worker, thread := .begun }]
      kept := crew.kept ++ [crew.calls.length] } := by
  unfold Pool.spawn at spawned
  cases claim : crew.pool.claim limit with
  | error fault =>
      rw [claim] at spawned
      cases spawned
  | ok claimed =>
      rw [claim] at spawned
      cases spawned
      have called : Runs limit (· = caller) crew (crew.withCall crew.pool { caller, launch }) :=
        .step .refl rfl (.call launch free)
      have asked := (((called.step rfl (Spawns.step_withCall (.claim rfl claim))).step rfl
        (Spawns.step_withCall (.number rfl))).step rfl
        (Spawns.step_withCall (.idle rfl))).step rfl (Spawns.step_withCall (.spawning rfl))
      have begun := asked.step rfl (Spawns.step_withCall (.start rfl))
      have kept := begun.step rfl (Step.keep (getElem?_withCall _ _ _) rfl)
      rwa [withCall, set_withCall] at kept

/-! ## What a step does to one call -/

/-- Whether a thread was started in the call. -/
def Stage.hasThread : Stage → Bool
  | .keeping _ | .started _ => true
  | _ => false

/-- There is a thread exactly when the call started one. -/
def Call.Coherent (call : Call) : Prop :=
  call.thread ≠ .absent ↔ call.stage.hasThread

/-- What can become of a call and the pool in one step. -/
inductive Alters (limit : Option UInt32) (pool : Pool) (call : Call) : Pool → Call → Prop where
  | spawns {after : Pool} {later : Call} (spawns : Spawns limit pool call after later) :
      Alters limit pool call after later
  | keeps {worker : UInt32} (stage : call.stage = .keeping worker) :
      Alters limit pool call (pool.pushHandle worker) { call with stage := .started worker }
  | works {after : Pool} {later : Call} (works : Works pool call after later) :
      Alters limit pool call after later
  | records {worker : UInt32} (named : call.worker? = some worker)
      (thread : call.thread = .exited true) :
      Alters limit pool call (pool.setPhase worker .failed) { call with thread := .exited false }

/-- A step adds a call, alters one, or leaves the calls alone; then at most the handles are
taken. -/
theorem Step.calls {actor : Actor} (step : Step limit crew actor later) :
    (∃ call : Call, call.stage = .claiming ∧ call.thread = .absent ∧
      later.calls = crew.calls ++ [call] ∧ later.pool = crew.pool) ∨
    (∃ place call after, crew.calls[place]? = some call ∧
      Alters limit crew.pool call later.pool after ∧
      later.calls = crew.calls.set place after) ∨
    (later.calls = crew.calls ∧
      (later.pool = crew.pool ∨ later.pool = crew.pool.takeHandles.2)) := by
  cases step with
  | call launch free => exact .inl ⟨_, rfl, rfl, rfl, rfl⟩
  | spawn found spawns => exact .inr (.inl ⟨_, _, _, found, .spawns spawns, rfl⟩)
  | keep found stage => exact .inr (.inl ⟨_, _, _, found, .keeps stage, rfl⟩)
  | work found free works => exact .inr (.inl ⟨_, _, _, found, .works works, rfl⟩)
  | record found next batch met named thread =>
      exact .inr (.inl ⟨_, _, _, met, .records named thread, rfl⟩)
  | take => exact .inr (.inr ⟨rfl, .inr rfl⟩)
  | takeNone => exact .inr (.inr ⟨rfl, .inr rfl⟩)
  | join => exact .inr (.inr ⟨rfl, .inl rfl⟩)
  | collect => exact .inr (.inr ⟨rfl, .inl rfl⟩)
  | notice => exact .inr (.inr ⟨rfl, .inl rfl⟩)
  | leave => exact .inr (.inr ⟨rfl, .inl rfl⟩)

/-- What no step changes in a call holds of the call at a place from then on. -/
theorem Step.call_of_alters {actor : Actor} {place : Nat} {holds : Call → Prop}
    (step : Step limit crew actor later)
    (alters : ∀ {call altered : Call} {pool : Pool}, Alters limit crew.pool call pool altered →
      holds call → holds altered)
    (found : ∃ call, crew.calls[place]? = some call ∧ holds call) :
    ∃ call, later.calls[place]? = some call ∧ holds call := by
  obtain ⟨call, there, held⟩ := found
  have within := (List.getElem?_eq_some_iff.mp there).1
  rcases step.calls with ⟨added, -, -, calls, -⟩ | ⟨other, before, altered, met, alter, calls⟩ |
    ⟨calls, -⟩
  · exact ⟨call, by rwa [calls, List.getElem?_append_left within], held⟩
  · by_cases same : other = place
    · subst same
      rw [there] at met
      cases met
      exact ⟨altered, by rw [calls, List.getElem?_set_self within], alters alter held⟩
    · exact ⟨call, by rwa [calls, List.getElem?_set_ne same], held⟩
  · exact ⟨call, by rwa [calls], held⟩

/-- A thread that works is there and stays so. -/
theorem Works.frame {pool after : Pool} {call altered : Call}
    (works : Works pool call after altered) :
    call.thread ≠ .absent ∧ altered.thread ≠ .absent ∧ altered.stage = call.stage ∧
      altered.caller = call.caller := by
  cases works with
  | fail named thread =>
      refine ⟨fun absent => ?_, nofun, rfl, rfl⟩
      rw [absent] at thread
      cases thread
  | panic thread =>
      refine ⟨fun absent => ?_, nofun, rfl, rfl⟩
      rw [absent] at thread
      cases thread
  | _ => simp_all

theorem Alters.coherent {pool after : Pool} {call altered : Call}
    (alters : Alters limit pool call after altered) (coherent : call.Coherent) :
    altered.Coherent := by
  unfold Call.Coherent at *
  cases alters with
  | spawns spawns => cases spawns <;> simp_all [Stage.hasThread]
  | keeps stage => simp_all [Stage.hasThread]
  | works works =>
      obtain ⟨present, still, stage, -⟩ := works.frame
      simp_all
  | records named thread => simp_all

/-- Every call is coherent. -/
def Coherent (crew : Crew) : Prop :=
  ∀ call ∈ crew.calls, call.Coherent

theorem Step.coherent {actor : Actor} (step : Step limit crew actor later)
    (coherent : crew.Coherent) : later.Coherent := by
  intro other among
  rcases step.calls with ⟨call, stage, thread, calls, -⟩ |
    ⟨place, call, altered, found, alters, calls⟩ | ⟨calls, -⟩
  · rw [calls, List.mem_append, List.mem_singleton] at among
    rcases among with old | rfl
    · exact coherent other old
    · simp [Call.Coherent, stage, thread, Stage.hasThread]
  · rw [calls] at among
    rcases List.mem_or_eq_of_mem_set among with old | rfl
    · exact coherent other old
    · exact alters.coherent (coherent call (List.mem_of_getElem? found))
  · rw [calls] at among
    exact coherent other among

theorem Runs.coherent (runs : Runs limit may crew later) (coherent : crew.Coherent) :
    later.Coherent :=
  runs.preserve Coherent coherent fun _ _ _ _ step held => step.coherent held

theorem coherent_empty : Coherent {} :=
  fun _ member => absurd member List.not_mem_nil

/-! ## Who is busy -/

/-- A call that keeps its stage and its caller keeps its caller as busy as it was. -/
theorem busy_of_set {calls : List Call} {place : Nat} {call altered : Call} {caller : Actor}
    (busy : ∃ other ∈ calls.set place altered, other.caller = caller ∧ other.stage.isBusy)
    (found : calls[place]? = some call) (stage : altered.stage = call.stage)
    (same : altered.caller = call.caller) :
    ∃ other ∈ calls, other.caller = caller ∧ other.stage.isBusy := by
  obtain ⟨other, among, asked, isBusy⟩ := busy
  rcases List.mem_or_eq_of_mem_set among with old | rfl
  · exact ⟨other, old, asked, isBusy⟩
  · exact ⟨call, List.mem_of_getElem? found, by rw [← same, asked], by rwa [← stage]⟩

/-- Who is on the way to start a worker was so before, or made the step. -/
theorem Step.busy {actor : Actor} (step : Step limit crew actor later) {caller : Actor}
    (busy : later.Busy caller) : actor = caller ∨ crew.Busy caller := by
  cases step with
  | call launch free =>
      obtain ⟨call, among, asked, stage⟩ := busy
      rcases List.mem_append.mp among with old | new
      · exact .inr ⟨call, old, asked, stage⟩
      · rw [List.mem_singleton.mp new] at asked
        exact .inl asked
  | spawn found spawns =>
      obtain ⟨call, among, asked, stage⟩ := busy
      rcases List.mem_or_eq_of_mem_set among with old | rfl
      · exact .inr ⟨call, old, asked, stage⟩
      · exact .inl (by rw [← asked]; cases spawns <;> rfl)
  | keep found keeping =>
      obtain ⟨call, among, asked, stage⟩ := busy
      rcases List.mem_or_eq_of_mem_set among with old | rfl
      · exact .inr ⟨call, old, asked, stage⟩
      · exact .inl asked
  | work found free works =>
      obtain ⟨-, -, stage, same⟩ := works.frame
      exact .inr (busy_of_set busy found stage same)
  | record found next batch met named thread => exact .inr (busy_of_set busy met rfl rfl)
  | _ => exact .inr busy

end Crew

end WasmBridge
