import WasmBridge.Proofs.Context.Composition
import WasmBridge.Proofs.Context.Interference
import WasmBridge.Proofs.Worker.Handles
import WasmBridge.Worker.Run

/-!
# Contexts follow the steps

What the contexts of a host do to its pool is what those do who work on it.  While a
context waits the others make their steps; whatever they do, the context goes on with steps
of its own.
-/

namespace WasmBridge

open Crew

variable {limit : Option UInt32} {actor : Actor} {crew later : Crew} {α β ε : Type}
  {adopted : List (UInt32 × Wire.Launch)}

/-! ## Pools that agree -/

/-- The pool of the crew is that of the host, but for the workers that the host adopted to let
them run. -/
def Crew.Tracks (crew : Crew) (adopted : List (UInt32 × Wire.Launch)) (pool : Pool) : Prop :=
  crew.pool = { pool with started := adopted ++ pool.started }

/-- To start a worker is the same for pools that agree. -/
theorem Crew.Tracks.spawn {pool after : Pool} {launch : Wire.Launch} {worker : UInt32}
    (tracks : crew.Tracks adopted pool) (spawned : pool.spawn limit launch = .ok (worker, after)) :
    crew.pool.spawn limit launch =
      .ok (worker, { after with started := adopted ++ after.started }) := by
  unfold Tracks at tracks
  unfold Pool.spawn at *
  cases claim : pool.claim limit with
  | error fault =>
      rw [claim] at spawned
      cases spawned
  | ok claimed =>
      rw [claim] at spawned
      cases spawned
      obtain ⟨rfl, free⟩ := Pool.claim_eq_ok_iff.mp claim
      have granted : crew.pool.claim limit =
          .ok { pool with active := pool.active + 1, started := adopted ++ pool.started } := by
        rw [Pool.claim_eq_ok_iff, tracks]
        exact ⟨rfl, free⟩
      rw [granted]
      simp only [Pool.pushHandle, Pool.start, ← List.append_assoc]
      rfl

/-! ## Threads that follow -/

/-- Whatever the others do while a thread waits, what it does are steps of one of a crew who
may start a worker when it waits but is not about to, and at its end a condition holds. -/
def Thread.Follows (limit : Option UInt32) (actor : Actor) (post : Crew → α → Prop) :
    Thread Shared α → List (UInt32 × Wire.Launch) → Crew → Prop
  | .done shared value, adopted, crew => ∃ later, Runs limit (· = actor) crew later ∧
    later.Tracks adopted shared.pool ∧ post later value
  | .waiting shared _ resume, adopted, crew => ∃ later, Runs limit (· = actor) crew later ∧
    later.Tracks adopted shared.pool ∧ later.MayCall actor ∧
      ∀ taken next changed, Runs limit (· ≠ actor) later next →
        next.Tracks taken changed.pool → Follows limit actor post (resume changed) taken next

namespace Thread.Follows

variable {post : Crew → α → Prop}

theorem of_runs {thread : Thread Shared α} (runs : Runs limit (· = actor) crew later)
    (follows : thread.Follows limit actor post adopted later) :
    thread.Follows limit actor post adopted crew := by
  cases thread with
  | done shared value =>
      obtain ⟨last, rest, tracks, holds⟩ := follows
      exact ⟨last, runs.trans rest, tracks, holds⟩
  | waiting shared ready resume =>
      obtain ⟨last, rest, tracks, free, resumes⟩ := follows
      exact ⟨last, runs.trans rest, tracks, free, resumes⟩

theorem andThen {mid : Crew → α → Prop} {post : Crew → β → Prop} {next : α → Action Shared β}
    {thread : Thread Shared α} (first : thread.Follows limit actor mid adopted crew)
    (rest : ∀ value adopted later shared, later.Tracks adopted shared.pool → mid later value →
      (next value shared).Follows limit actor post adopted later) :
    (thread.andThen next).Follows limit actor post adopted crew := by
  induction thread generalizing adopted crew with
  | done shared value =>
      obtain ⟨later, runs, tracks, holds⟩ := first
      exact (rest value adopted later shared tracks holds).of_runs runs
  | waiting shared ready resume ih =>
      obtain ⟨later, runs, tracks, free, resumes⟩ := first
      exact ⟨later, runs, tracks, free, fun taken after changed others same =>
        ih changed (resumes taken after changed others same)⟩

end Thread.Follows

namespace Activity

/-- What the context of a number does are steps of one of a crew, from one condition to
another. -/
def Follows (limit : Option UInt32) (actor : Actor) (id : UInt32) (pre : Crew → Prop)
    (activity : Activity α) (post : α → Crew → Prop) : Prop :=
  ∀ adopted crew context shared, context.id = id → crew.Tracks adopted shared.pool → pre crew →
    (activity context shared).Follows limit actor
      (fun later (value, context) => context.id = id ∧ post value later) adopted crew

variable {id : UInt32} {pre : Crew → Prop}

theorem Follows.bind {activity : Activity α} {next : α → Activity β} {mid : α → Crew → Prop}
    {post : β → Crew → Prop} (first : activity.Follows limit actor id pre mid)
    (rest : ∀ value, (next value).Follows limit actor id (mid value) post) :
    (activity >>= next).Follows limit actor id pre post := by
  intro adopted crew context shared same tracks holds
  refine (first adopted crew context shared same tracks holds).andThen ?_
  rintro ⟨value, context⟩ taken later shared tracks ⟨same, holds⟩
  exact rest value taken later context shared same tracks holds

theorem Follows.of_pure {post : α → Crew → Prop} (value : α)
    (holds : ∀ crew, pre crew → post value crew) :
    (pure value : Activity α).Follows limit actor id pre post :=
  fun _ crew _ _ same tracks before => ⟨crew, .refl, tracks, same, holds crew before⟩

theorem Follows.imp {activity : Activity α} {post further : α → Crew → Prop}
    (follows : activity.Follows limit actor id pre post)
    (weaker : ∀ value crew, post value crew → further value crew) :
    activity.Follows limit actor id pre further := by
  have continued := follows.bind fun value => Follows.of_pure value fun crew holds =>
    weaker value crew holds
  rwa [bind_pure] at continued

theorem Follows.run_bind {attempt : ExceptT ε Activity α} {next : α → ExceptT ε Activity β}
    {mid : Except ε α → Crew → Prop} {post : Except ε β → Crew → Prop}
    (first : Follows limit actor id pre attempt.run mid)
    (rest : ∀ value, Follows limit actor id (mid (.ok value)) (next value).run post)
    (failed : ∀ error crew, mid (.error error) crew → post (.error error) crew) :
    Follows limit actor id pre (attempt >>= next).run post := by
  change Follows limit actor id pre (attempt.run >>= ExceptT.bindCont next) post
  refine first.bind fun result => ?_
  cases result with
  | ok value => exact rest value
  | error error => exact .of_pure _ (failed error)

end Activity

/-! ## Contexts -/

/-- A condition under which one may start workers, and which neither that nor the others
change. -/
structure Crew.Standing (limit : Option UInt32) (actor : Actor) (pre : Crew → Prop) : Prop where
  mayCall : ∀ crew, pre crew → crew.MayCall actor
  spawned : ∀ crew pool launch worker, pre crew → pre { crew with
    pool
    calls := crew.calls ++ [{ caller := actor, launch, stage := .started worker, thread := .begun }]
    kept := crew.kept ++ [crew.calls.length] }
  others : ∀ crew later, pre crew → Runs limit (· ≠ actor) crew later → pre later

namespace Activity

variable {host : Host} {id : UInt32} {pre : Crew → Prop}

theorem Follows.of_done {activity : Activity α}
    (steps : ∀ before : Moment, ∃ (answer : α) (after : Moment),
      activity before.1 before.2 = .done after.2 (answer, after.1) ∧
        after.1.id = before.1.id ∧ after.2.pool = before.2.pool) :
    activity.Follows limit actor id pre fun _ => pre := by
  intro adopted crew context shared same tracks holds
  obtain ⟨answer, after, done, number, pool⟩ := steps (context, shared)
  rw [done]
  exact ⟨crew, .refl, by rwa [pool], number.trans same, holds⟩

/-- A step of a context's own starts a worker or leaves the pool alone. -/
theorem Follows.of_ownStep (standing : Standing host.config.workers actor pre)
    {activity : Activity α}
    (steps : ∀ before : Moment, ∃ answer after events,
      activity before.1 before.2 = .done after.2 (answer, after.1) ∧
        OwnStep host before after ∧ before.1.Step events after.1 ∧ ∀ event ∈ events, True) :
    activity.Follows host.config.workers actor id pre fun _ => pre := by
  intro adopted crew context shared same tracks holds
  obtain ⟨answer, after, events, done, step, -⟩ := steps (context, shared)
  rw [done]
  cases step with
  | spawn started =>
      exact ⟨_, runs_of_spawn (standing.mayCall crew holds) (tracks.spawn started), rfl, same,
        standing.spawned crew _ _ _ holds⟩
  | context number => exact ⟨crew, .refl, tracks, number.trans same, holds⟩
  | _ => exact ⟨crew, .refl, tracks, same, holds⟩

theorem Follows.of_waitUntil (standing : Standing limit actor pre) (ready : Shared → Bool) :
    (waitUntil ready).Follows limit actor id pre fun _ => pre := by
  intro adopted crew context shared same tracks holds
  cases met : ready shared with
  | true =>
      rw [waitUntil_of_ready met]
      exact ⟨crew, .refl, tracks, same, holds⟩
  | false =>
      rw [waitUntil_of_not_ready met]
      exact ⟨crew, .refl, tracks, standing.mayCall crew holds, fun _ next _ others agrees =>
        ⟨next, .refl, agrees, same, standing.others crew next holds others⟩⟩

/-- A message that fails is reported, which leaves the pool alone. -/
theorem Follows.of_deliver {again : Reentry} {envelope : Wire.Envelope}
    (routed : (again.route envelope).Follows limit actor id pre fun _ => pre) :
    (again.deliver envelope).Follows limit actor id pre fun _ => pre := by
  refine routed.bind fun outcome => ?_
  cases outcome with
  | ok value => exact .of_pure value fun _ holds => holds
  | error fault =>
      exact .of_done fun before => ⟨0, (before.1, { before.2 with
        log := before.2.log.push (before.1.id,
          .messageFailed before.1.id envelope.library envelope.command fault) }), rfl, rfl, rfl⟩

theorem Follows.of_parts (standing : Standing host.config.workers actor pre) {again : Reentry}
    (calls : ∀ designator args,
      (again.call designator args).Follows host.config.workers actor id pre fun _ => pre)
    (routes : ∀ envelope,
      (again.route envelope).Follows host.config.workers actor id pre fun _ => pre)
    {activity : Reentry → Activity α} (composed : Composed host True (fun _ => True) activity) :
    (activity again).Follows host.config.workers actor id pre fun _ => pre := by
  induction composed with
  | own steps => exact .of_ownStep standing steps
  | wait _ ready => exact .of_waitUntil standing ready
  | call designator args => exact calls designator args
  | route envelope => exact routes envelope
  | deliver _ envelope => exact .of_deliver (routes envelope)
  | bind _ _ first rest => exact first.bind rest

theorem Follows.of_reentry (standing : Standing host.config.workers actor pre) (depth : Nat) :
    (∀ designator args, ((host.reentry depth).call designator args).Follows host.config.workers
      actor id pre fun _ => pre) ∧
    ∀ envelope, ((host.reentry depth).route envelope).Follows host.config.workers actor id pre
      fun _ => pre := by
  refine host.reentry_induction depth
    (fun activity => activity.Follows host.config.workers actor id pre fun _ => pre)
    (fun _ activity => activity.Follows host.config.workers actor id pre fun _ => pre)
    (.of_pure _ fun _ holds => holds) (fun _ => .of_pure _ fun _ holds => holds) ?_
  intro again calls routes
  exact ⟨fun designator args => .of_parts standing calls routes
      (Composed.of_guestCall host.module args designator),
    fun envelope => .of_parts standing calls routes (Composed.of_route envelope)⟩

/-- What is composed follows the steps of one who may start workers. -/
theorem Follows.of_composed (standing : Standing host.config.workers actor pre) (depth : Nat)
    {activity : Reentry → Activity α} (composed : Composed host True (fun _ => True) activity) :
    (activity (host.reentry depth)).Follows host.config.workers actor id pre fun _ => pre := by
  obtain ⟨calls, routes⟩ := Follows.of_reentry standing depth
  exact .of_parts standing calls routes composed

end Activity

namespace Crew

theorem not_busy_of_others {caller : Actor} (free : ¬ crew.Busy caller)
    (runs : Runs limit (· ≠ caller) crew later) : ¬ later.Busy caller := by
  refine runs.preserve (fun crew => ¬ crew.Busy caller) free ?_
  intro actor before after other step idle busy
  rcases step.busy busy with same | still
  · exact other same
  · exact idle still

theorem not_busy_of_started {caller : Actor} {launch : Wire.Launch} {worker : UInt32}
    {pool : Pool} {kept : List Nat} (free : ¬ crew.Busy caller) :
    ¬ Busy { crew with
      pool
      calls := crew.calls ++
        [{ caller, launch, stage := .started worker, thread := .begun }]
      kept } caller := by
  rintro ⟨call, among, asked, busy⟩
  rcases List.mem_append.mp among with old | new
  · exact free ⟨call, old, asked, busy⟩
  · rw [List.mem_singleton.mp new] at busy
    cases busy

/-- A main context may start workers whenever it is at nothing else. -/
theorem standing_main (limit : Option UInt32) (index : Nat) :
    Standing limit (.main index) (·.MayCall (.main index)) where
  mayCall _ free := free
  spawned _ _ _ _ free := ⟨not_busy_of_started free.1, trivial⟩
  others _ _ free runs := ⟨not_busy_of_others free.1 runs, trivial⟩

/-! ## Workers -/

/-- The thread that was started at a place for a worker is so far, and starts no worker at
the moment. -/
structure At (place : Nat) (worker : UInt32) (far : Progress → Prop) (crew : Crew) : Prop where
  coherent : crew.Coherent
  call : ∃ call, crew.calls[place]? = some call ∧ call.worker? = some worker ∧ far call.thread
  free : ¬ crew.Busy (.worker place)

variable {place : Nat} {worker : UInt32} {far : Progress → Prop}

theorem At.imp {further : Progress → Prop} (here : crew.At place worker far)
    (weaker : ∀ progress, far progress → further progress) : crew.At place worker further := by
  obtain ⟨call, found, named, thread⟩ := here.call
  exact ⟨here.coherent, ⟨call, found, named, weaker _ thread⟩, here.free⟩

theorem Progress.mayPanic_of_isInGuest {progress : Progress} (inGuest : progress.isInGuest) :
    progress.mayPanic := by
  cases progress with
  | bootstrapping => rfl
  | running => rfl
  | _ => cases inGuest

/-- The others leave a thread alone that did not exit. -/
theorem At.step (here : crew.At place worker far)
    (alive : ∀ progress, far progress → progress.mayPanic) (other : actor ≠ .worker place)
    (step : Step limit crew actor later) : later.At place worker far := by
  refine ⟨step.coherent here.coherent, ?_, fun busy => ?_⟩
  · obtain ⟨call, found, named, thread⟩ := here.call
    have within := (List.getElem?_eq_some_iff.mp found).1
    have working := alive _ thread
    cases step with
    | call launch free =>
        exact ⟨call, by rwa [List.getElem?_append_left within], named, thread⟩
    | @spawn place' before altered pool there spawns =>
        refine ⟨call, ?_, named, thread⟩
        by_cases same : place' = place
        · rw [same, found] at there
          cases there
          rw [spawns.absent (here.coherent call (List.mem_of_getElem? found))] at working
          cases working
        · rwa [List.getElem?_set_ne same]
    | @keep place' before number there keeping =>
        by_cases same : place' = place
        · rw [same, found] at there
          cases there
          refine ⟨{ call with stage := .started number }, ?_, ?_, thread⟩
          · rw [same, List.getElem?_set_self within]
          · simpa [Call.worker?, keeping] using named
        · exact ⟨call, by rwa [List.getElem?_set_ne same], named, thread⟩
    | @work place' before altered pool there free works =>
        refine ⟨call, ?_, named, thread⟩
        rw [List.getElem?_set_ne (fun same => other (by rw [same])), found]
    | @record index place' rest joiner before number there next batch met named' exited =>
        refine ⟨call, ?_, named, thread⟩
        by_cases same : place' = place
        · rw [same, found] at met
          cases met
          rw [exited] at working
          cases working
        · rwa [List.getElem?_set_ne same]
    | _ => exact ⟨call, found, named, thread⟩
  · rcases step.busy busy with same | still
    · exact other same
    · exact here.free still

theorem At.runs (here : crew.At place worker far)
    (alive : ∀ progress, far progress → progress.mayPanic)
    (runs : Runs limit (· ≠ .worker place) crew later) : later.At place worker far :=
  runs.preserve (At place worker far) here fun _ _ _ other step held => held.step alive other step

/-- A worker may start workers while its guest may run. -/
theorem standing_worker (limit : Option UInt32)
    (guest : ∀ progress, far progress → progress.isInGuest) :
    Standing limit (.worker place) (At place worker far) where
  mayCall crew here := by
    obtain ⟨call, found, -, thread⟩ := here.call
    exact ⟨here.free, call, found, guest _ thread⟩
  spawned crew pool launch number here := by
    refine ⟨?_, ?_, not_busy_of_started here.free⟩
    · intro other among
      rcases List.mem_append.mp among with old | new
      · exact here.coherent other old
      · rw [List.mem_singleton.mp new]
        simp [Call.Coherent, Stage.hasThread]
    · obtain ⟨call, found, named, thread⟩ := here.call
      have within := (List.getElem?_eq_some_iff.mp found).1
      exact ⟨call, by rwa [List.getElem?_append_left within], named, thread⟩
  others _ _ here runs := here.runs (fun _ far => Progress.mayPanic_of_isInGuest (guest _ far)) runs

/-- A step of the thread takes it further. -/
theorem At.works {pool : Pool} {next : Progress} (here : crew.At place worker far)
    (works : ∀ call, call.worker? = some worker → far call.thread →
      Works crew.pool call pool { call with thread := next }) :
    ∃ later, Runs limit (· = .worker place) crew later ∧ later.pool = pool ∧
      later.At place worker (· = next) := by
  obtain ⟨call, found, named, thread⟩ := here.call
  have step : Step limit crew (.worker place)
      { crew with pool, calls := crew.calls.set place { call with thread := next } } :=
    .work found here.free (works call named thread)
  have within := (List.getElem?_eq_some_iff.mp found).1
  refine ⟨_, Runs.refl.step rfl step, rfl, step.coherent here.coherent, ?_, ?_⟩
  · exact ⟨_, List.getElem?_set_self within, named, rfl⟩
  · exact fun busy => here.free (busy_of_set busy found rfl rfl)

end Crew

namespace Activity

variable {host : Host} {place : Nat} {worker : UInt32} {far : Progress → Prop} {next : Progress}

/-- A change of the pool that is a step of the thread. -/
theorem Follows.of_works {change : Pool → Pool} {activity : Activity α} (value : α)
    (done : ∀ context shared, context.id = worker →
      activity context shared = .done { shared with pool := change shared.pool } (value, context))
    (agrees : ∀ pool started, change { pool with started } = { change pool with started })
    (works : ∀ pool call, call.worker? = some worker → far call.thread →
      Works pool call (change pool) { call with thread := next }) :
    activity.Follows limit (.worker place) worker (At place worker far)
      fun _ => At place worker (· = next) := by
  intro adopted crew context shared number tracks here
  obtain ⟨later, runs, pool, there⟩ := here.works fun call => works crew.pool call
  rw [done context shared number]
  refine ⟨later, runs, ?_, number, there⟩
  have same := congrArg Pool.started (agrees shared.pool shared.pool.started)
  have leaves : (change shared.pool).started = shared.pool.started := same
  rw [Tracks, pool, tracks, agrees, leaves]

theorem Follows.of_report (event : Log.Event) :
    (report event).Follows limit (.worker place) worker (At place worker far)
      fun _ => At place worker far :=
  .of_done fun before => ⟨(), (before.1, { before.2 with
    log := before.2.log.push (before.1.id, event) }), rfl, rfl, rfl⟩

/-- How far the thread is when its start ends: its guest ran unless it failed. -/
def startedTo (place : Nat) (worker : UInt32) (result : Except Fault Unit) : Crew → Prop :=
  At place worker fun progress =>
    match result with
    | .ok () => progress = .running
    | .error _ => progress.isInGuest

theorem isInGuest_of_bootstrapping (progress : Progress) (same : progress = .bootstrapping) :
    progress.isInGuest := by
  rw [same]
  rfl

theorem isInGuest_of_running (progress : Progress) (same : progress = .running) :
    progress.isInGuest := by
  rw [same]
  rfl

theorem startSteps_append {again : Reentry} (before after : List StartStep) :
    Host.startSteps again (before ++ after) =
      Host.startSteps again before >>= fun _ => Host.startSteps again after := by
  induction before with
  | nil => rfl
  | cons step rest ih =>
      simp only [List.cons_append, Host.startSteps, ih, bind_assoc]

/-- The start of a worker records once that the guest is about to run, right before the last
call, or fails. -/
theorem sequence_cases (module : Wasm.Module) (launch : Wire.Launch) :
    ∃ before, (∀ step ∈ before, step ≠ .enterRunning) ∧
      ((∃ name args, StartStep.sequence module launch =
          before ++ [.enterRunning, .call name args]) ∨
        ∃ name, StartStep.sequence module launch = before ++ [.missing name]) := by
  unfold StartStep.sequence
  split
  · exact ⟨[], by simp, .inl ⟨_, _, rfl⟩⟩
  · refine ⟨StartStep.stackPointer module launch.stackPointer ::
      StartStep.localStorage module launch.tlsPointer, ?_, ?_⟩
    · intro step among
      rcases List.mem_cons.mp among with rfl | later
      · unfold StartStep.stackPointer
        split
        · nofun
        · split <;> nofun
      · unfold StartStep.localStorage at later
        split at later
        · rw [List.mem_singleton.mp later]
          nofun
        · cases later
    · unfold StartStep.entry
      split
      · exact .inl ⟨_, _, rfl⟩
      · exact .inr ⟨_, rfl⟩

theorem Follows.of_startSteps (depth : Nat) (launch : Wire.Launch) :
    (Host.startSteps (host.reentry depth) (StartStep.sequence host.module launch)).run.Follows
      host.config.workers (.worker place) worker (At place worker (· = .bootstrapping))
      (startedTo place worker) := by
  have standing : Standing host.config.workers (.worker place)
      (At place worker (· = .bootstrapping)) := standing_worker _ isInGuest_of_bootstrapping
  have running : Standing host.config.workers (.worker place)
      (At place worker (· = .running)) := standing_worker _ isInGuest_of_running
  -- The guest counts as running from the step before the last call; what is before that is
  -- still bootstrapping.
  obtain ⟨before, others, ⟨name, args, sequence⟩ | ⟨name, sequence⟩⟩ :=
    sequence_cases host.module launch
  · rw [sequence, startSteps_append]
    refine (of_composed standing depth (Composed.of_startSteps others)).run_bind ?_ ?_
    · intro _
      refine Follows.run_bind (Follows.of_works (.ok ()) ?_ (fun _ _ => rfl)
        fun pool call named thread => .run named thread) ?_ ?_
      · intro context shared same
        rw [← same]
        rfl
      · intro _
        have called : (Host.startSteps (host.reentry depth) [.call name args]).run.Follows
            host.config.workers (.worker place) worker (At place worker (· = .running))
              fun _ => At place worker (· = .running) :=
          of_composed running depth (Composed.of_startSteps
            (List.forall_mem_singleton.mpr (nofun : StartStep.call name args ≠ .enterRunning)))
        refine called.imp fun result crew here => here.imp fun progress same => ?_
        cases result with
        | ok value => exact same
        | error fault => exact isInGuest_of_running progress same
      · exact fun error crew here => here.imp isInGuest_of_running
    · exact fun error crew here => here.imp isInGuest_of_bootstrapping
  · rw [sequence, startSteps_append]
    refine (of_composed standing depth (Composed.of_startSteps others)).run_bind ?_ ?_
    · intro _
      exact .of_pure _ fun crew here => here.imp isInGuest_of_bootstrapping
    · exact fun error crew here => here.imp isInGuest_of_bootstrapping

theorem Follows.of_bootstrap (depth : Nat) (launch : Wire.Launch) :
    (host.bootstrap (host.reentry depth) launch).run.Follows host.config.workers (.worker place)
      worker (At place worker (· = .bootstrapping)) (startedTo place worker) := by
  have standing : Standing host.config.workers (.worker place)
      (At place worker (· = .bootstrapping)) := standing_worker _ isInGuest_of_bootstrapping
  have failed (error : Fault) (crew : Crew) (here : crew.At place worker (· = .bootstrapping)) :
      startedTo place worker (.error error) crew := here.imp isInGuest_of_bootstrapping
  refine (of_composed standing depth (Composed.of_instantiate true)).run_bind ?_ failed
  intro _
  split
  · exact .of_pure _ (failed _)
  · exact .of_pure _ (failed _)
  · refine (of_composed standing depth (Composed.of_bindBridge _).run_lift).run_bind ?_ failed
    exact fun _ => of_startSteps depth launch

/-- What a worker does from its first to its last step are steps of its thread. -/
theorem Follows.of_work (launch : Wire.Launch) :
    (host.work worker launch).Follows host.config.workers (.worker place) worker
      (At place worker (· = .begun)) fun _ => At place worker (· = .exited false) := by
  have closes : (do
      Activity.report (.contextClosed worker .worker)
      Host.changePool Pool.giveBack : Activity Unit).Follows host.config.workers (.worker place)
        worker (At place worker (· = .ended)) fun _ => At place worker (· = .exited false) := by
    refine (Follows.of_report _).bind fun _ => ?_
    refine Follows.of_works () (fun _ _ _ => rfl) (fun _ _ => rfl) ?_
    exact fun pool call named thread => .exit thread
  refine (Follows.of_works () (fun _ _ _ => rfl) (fun _ _ => rfl)
    fun pool call named thread => .boot named thread).bind fun _ => ?_
  refine (Follows.of_bootstrap _ launch).bind fun result => ?_
  cases result with
  | ok value =>
      refine (Follows.of_works () (fun _ _ _ => rfl) (fun _ _ => rfl)
        fun pool call named thread => .finish named thread).bind fun _ => ?_
      exact (Follows.of_report _).bind fun _ => closes
  | error fault =>
      refine (Follows.of_works () (fun _ _ _ => rfl) (fun _ _ => rfl)
        fun pool call named thread => .fail named thread).bind fun _ => ?_
      exact (Follows.of_report _).bind fun _ => closes

end Activity

end WasmBridge
