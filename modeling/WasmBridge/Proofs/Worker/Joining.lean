import WasmBridge.Proofs.Worker.Handles
import WasmBridge.Proofs.Worker.Outcomes

/-!
# Joining every worker

While workers are joined, workers may start more of them.  If nobody else does, the join
ends only when all of them ended: a thread that was not joined has its handle in the pool,
in the batch of the joiner, or with a caller whose own thread was not joined either.
-/

namespace WasmBridge

namespace Crew

variable {limit : Option UInt32} {crew later : Crew} {actor : Actor} {call altered : Call}
  {place : Nat}

/-! ## Callers -/

/-- Who starts a worker was there before it, and is in its guest meanwhile if it is a
worker. -/
structure Called (crew : Crew) : Prop where
  joiner : ∀ call ∈ crew.calls, ∀ index, call.caller ≠ .joiner index
  worker : ∀ (place : Nat) (call : Call) (parent : Nat), crew.calls[place]? = some call →
    call.caller = .worker parent → parent < place ∧
      (call.stage.isBusy → ∃ above, crew.calls[parent]? = some above ∧ above.thread.isInGuest)

theorem Called.set (called : crew.Called) (found : crew.calls[place]? = some call)
    (calls : later.calls = crew.calls.set place altered) (caller : altered.caller = call.caller)
    (busy : altered.stage.isBusy → call.stage.isBusy)
    (guest : crew.Busy (.worker place) → call.thread.isInGuest → altered.thread.isInGuest) :
    later.Called := by
  constructor
  · intro other among
    rw [calls] at among
    rcases List.mem_or_eq_of_mem_set among with old | rfl
    · exact called.joiner other old
    · rw [caller]
      exact called.joiner call (List.mem_of_getElem? found)
  · intro other child parent there asked
    rw [calls] at there ⊢
    have before : ∃ same, crew.calls[other]? = some same ∧ same.caller = child.caller ∧
        (child.stage.isBusy → same.stage.isBusy) := by
      rcases getElem?_set_cases there with ⟨rfl, rfl⟩ | ⟨-, old⟩
      · exact ⟨call, found, caller.symm, busy⟩
      · exact ⟨child, old, rfl, id⟩
    obtain ⟨same, old, asks, still⟩ := before
    obtain ⟨first, above⟩ := called.worker other same parent old (by rw [asks, asked])
    refine ⟨first, fun childBusy => ?_⟩
    obtain ⟨thread, there, inGuest⟩ := above (still childBusy)
    by_cases here : place = parent
    · subst here
      rw [found] at there
      cases there
      refine ⟨altered, List.getElem?_set_self (List.getElem?_eq_some_iff.mp found).1, ?_⟩
      refine guest ⟨same, List.mem_of_getElem? old, by rw [asks, asked], still childBusy⟩ inGuest
    · exact ⟨thread, by rwa [List.getElem?_set_ne here], inGuest⟩

theorem Step.called (step : Step limit crew actor later) (coherent : crew.Coherent)
    (called : crew.Called) : later.Called := by
  cases step with
  | call launch free =>
      constructor
      · intro other among
        rcases List.mem_append.mp among with old | new
        · exact called.joiner other old
        · rw [List.mem_singleton.mp new]
          rintro index rfl
          exact free.2
      · intro other child parent there asked
        have stays (parent : Nat) (above : Call) (old : crew.calls[parent]? = some above) :
            (crew.calls ++ [{ caller := actor, launch }])[parent]? = some above := by
          rwa [List.getElem?_append_left (List.getElem?_eq_some_iff.mp old).1]
        rcases getElem?_append_cases there with ⟨rfl, rfl⟩ | old
        · obtain rfl : actor = .worker parent := asked
          obtain ⟨-, above, found, inGuest⟩ := free
          exact ⟨(List.getElem?_eq_some_iff.mp found).1, fun _ => ⟨above, stays _ _ found, inGuest⟩⟩
        · obtain ⟨first, above⟩ := called.worker other child parent old asked
          refine ⟨first, fun busy => ?_⟩
          obtain ⟨thread, found, inGuest⟩ := above busy
          exact ⟨thread, stays _ _ found, inGuest⟩
  | spawn found spawns =>
      refine called.set found rfl (by cases spawns <;> rfl) (fun _ => spawns.isBusy) ?_
      intro _ inGuest
      rw [spawns.absent (coherent _ (List.mem_of_getElem? found))] at inGuest
      cases inGuest
  | keep found stage => exact called.set found rfl rfl nofun fun _ inGuest => inGuest
  | work found free works =>
      obtain ⟨-, -, stage, caller⟩ := works.frame
      refine called.set found rfl caller (by rw [stage]; exact id) fun busy => absurd busy free
  | record found next batch met named thread =>
      refine called.set met rfl rfl id fun _ inGuest => ?_
      rw [thread] at inGuest
      cases inGuest
  | join => exact ⟨called.joiner, called.worker⟩
  | take => exact ⟨called.joiner, called.worker⟩
  | takeNone => exact ⟨called.joiner, called.worker⟩
  | collect => exact ⟨called.joiner, called.worker⟩
  | notice => exact ⟨called.joiner, called.worker⟩
  | leave => exact ⟨called.joiner, called.worker⟩

/-! ## When everything ended -/

/-- Nobody is on the way to start a worker, and every thread was joined or only needs to
be. -/
structure Settled (crew : Crew) : Prop where
  idle : ∀ call ∈ crew.calls, ¬ call.stage.isBusy
  exited : ∀ call ∈ crew.calls, call.thread ≠ .absent → call.thread = .exited false
  kept : crew.kept = []

/-- No main context is on the way to start a worker. -/
def Quiet (crew : Crew) : Prop :=
  ∀ index, ¬ crew.Busy (.main index)

theorem not_isInGuest_of_exited {progress : Progress}
    (exited : progress ≠ .absent → progress = .exited false) : ¬ progress.isInGuest := by
  intro inGuest
  have present : progress ≠ .absent := by
    rintro rfl
    cases inGuest
  rw [exited present] at inGuest
  cases inGuest

/-- Nobody starts a worker at a place if no main context does and no thread that began before
is in its guest. -/
theorem Called.not_isBusy (called : crew.Called) (quiet : crew.Quiet)
    (found : crew.calls[place]? = some call)
    (before : ∀ parent < place, ∀ above, crew.calls[parent]? = some above →
      ¬ above.thread.isInGuest) : ¬ call.stage.isBusy := by
  intro busy
  have member := List.mem_of_getElem? found
  cases asked : call.caller with
  | main index => exact quiet index ⟨call, member, asked, busy⟩
  | joiner index => exact called.joiner call member index asked
  | worker parent =>
      obtain ⟨first, above⟩ := called.worker place call parent found asked
      obtain ⟨thread, there, inGuest⟩ := above busy
      exact before parent first thread there inGuest

/-- If no handle is left and no main context is at it, everything ended.  A thread that is
there is still with its caller, whose own thread began before it. -/
theorem settled_of_no_handle (accounted : crew.Accounted) (called : crew.Called)
    (quiet : crew.Quiet) (kept : crew.kept = []) (batches : crew.batches = []) :
    crew.Settled := by
  have ended (place : Nat) : ∀ call, crew.calls[place]? = some call →
      ¬ call.stage.isBusy ∧ (call.thread ≠ .absent → call.thread = .exited false) := by
    -- By induction on the place: a worker that is at it was started at a place before.
    induction place using Nat.strongRecOn with
    | ind place ih =>
        intro call found
        have idle := called.not_isBusy quiet found fun parent first above there =>
          not_isInGuest_of_exited (ih parent first above there).2
        refine ⟨idle, fun present => ?_⟩
        rcases accounted.held place call found present with ⟨worker, keeping⟩ | inPool | taken |
          exited
        · exact absurd (by rw [keeping]; rfl) idle
        · rw [kept] at inPool
          cases inPool
        · rw [batches] at taken
          cases taken
        · exact exited
  constructor
  · intro call member
    obtain ⟨place, found⟩ := List.mem_iff_getElem?.mp member
    exact (ended place call found).1
  · intro call member
    obtain ⟨place, found⟩ := List.mem_iff_getElem?.mp member
    exact (ended place call found).2
  · exact kept

theorem Settled.not_isInGuest (settled : crew.Settled) (member : call ∈ crew.calls) :
    ¬ call.thread.isInGuest :=
  not_isInGuest_of_exited (settled.exited call member)

/-- Where everything ended no worker makes a step. -/
theorem Settled.not_step (settled : crew.Settled) {parent : Nat}
    (step : Step limit crew (.worker parent) later) : False := by
  generalize who : Actor.worker parent = actor at step
  cases step with
  | call launch free =>
      subst who
      obtain ⟨-, above, found, inGuest⟩ := free
      exact settled.not_isInGuest (List.mem_of_getElem? found) inGuest
  | spawn found spawns => exact settled.idle _ (List.mem_of_getElem? found) spawns.isBusy
  | keep found stage =>
      exact settled.idle _ (List.mem_of_getElem? found) (by rw [stage]; rfl)
  | work found free works =>
      have exited := settled.exited _ (List.mem_of_getElem? found) works.frame.1
      cases works <;> simp_all [Progress.isInGuest, Progress.mayPanic]
  | _ => cases who

/-! ## The join of a run -/

/-- Whether somebody is a worker. -/
def Actor.isWorker : Actor → Bool
  | .worker _ => true
  | _ => false

/-- Whether somebody runs the guest. -/
def Actor.isContext : Actor → Bool
  | .main _ | .worker _ => true
  | .joiner _ => false

theorem Actor.isContext_of_isWorker (worker : actor.isWorker) : actor.isContext := by
  cases actor with
  | worker place => rfl
  | _ => cases worker

theorem Actor.isContext_of_main (actor : Actor) (same : actor = .main 0) : actor.isContext := by
  rw [same]
  rfl

/-- How many threads were ever started. -/
def threads (crew : Crew) : Nat :=
  crew.calls.countP (·.stage.hasThread)

/-- Everything ended, and whoever joined workers has left. -/
structure Drained (crew : Crew) : Prop extends crew.Settled where
  left : ∀ joiner ∈ crew.joiners, joiner.next = .left

/-- What holds while the joiner at the end is the only one and workers are the only ones
that start workers.  `joiners` are those that left before. -/
structure Draining (joiners : List Joiner) (crew : Crew) : Prop where
  accounted : crew.Accounted
  called : crew.Called
  quiet : crew.Quiet
  last : crew.joiners = joiners ∨ ∃ joiner, crew.joiners = joiners ++ [joiner] ∧
    (joiner.next = .leaving ∨ joiner.next = .left → crew.Settled)

theorem Step.quiet (step : Step limit crew actor later) (quiet : crew.Quiet)
    (other : ∀ index, actor ≠ .main index) : later.Quiet := by
  intro index busy
  rcases step.busy busy with same | before
  · exact other index same
  · exact quiet index before

theorem batches_eq_nil_of_left {joiners : List Joiner} {joiner : Joiner}
    (accounted : crew.Accounted) (joins : crew.joiners = joiners ++ [joiner])
    (left : ∀ joiner ∈ joiners, joiner.next = .left) (empty : joiner.batch = []) :
    crew.batches = [] := by
  rw [batches, List.flatMap_eq_nil_iff]
  intro other member
  have among := member
  rw [joins] at among
  rcases List.mem_append.mp among with before | last
  · exact accounted.emptied other member (.inr (left other before))
  · rw [List.mem_singleton.mp last]
    exact empty

theorem Draining.last_of_found {joiners : List Joiner} {joiner : Joiner}
    (draining : crew.Draining joiners) (found : crew.joiners[joiners.length]? = some joiner) :
    crew.joiners = joiners ++ [joiner] ∧
      (joiner.next = .leaving ∨ joiner.next = .left → crew.Settled) ∧
      ∀ after, crew.joiners.set joiners.length after = joiners ++ [after] := by
  rcases draining.last with before | ⟨other, joins, settles⟩
  · rw [before] at found
    exact absurd (List.getElem?_eq_some_iff.mp found).1 (Nat.lt_irrefl _)
  · rw [joins, List.getElem?_concat_length] at found
    obtain rfl := Option.some.inj found
    exact ⟨joins, settles, fun after => by simp [joins]⟩

/-- A step of the last joiner replaces it, and it begins to leave only when everything
ended. -/
theorem Draining.joiner_step {joiners : List Joiner} (draining : crew.Draining joiners)
    (left : ∀ joiner ∈ joiners, joiner.next = .left)
    (step : Step limit crew (.joiner joiners.length) later) :
    ∃ joiner, later.joiners = joiners ++ [joiner] ∧
      (joiner.next = .leaving ∨ joiner.next = .left → later.Settled) := by
  generalize who : Actor.joiner joiners.length = actor at step
  cases step with
  | call launch free =>
      subst who
      exact free.2.elim
  | spawn found spawns =>
      exact absurd who.symm (draining.called.joiner _ (List.mem_of_getElem? found) _)
  | keep found stage =>
      exact absurd who.symm (draining.called.joiner _ (List.mem_of_getElem? found) _)
  | work found free works => cases who
  | join =>
      have same : joiners.length = crew.joiners.length := Actor.joiner.inj who
      rcases draining.last with before | ⟨other, joins, -⟩
      · exact ⟨{}, by rw [before], by simp⟩
      · rw [joins, List.length_append, List.length_singleton] at same
        omega
  | take found next empty some =>
      cases who
      obtain ⟨joins, settles, set⟩ := draining.last_of_found found
      exact ⟨_, set _, by simp [next]⟩
  | takeNone found next empty none =>
      cases who
      obtain ⟨joins, settles, set⟩ := draining.last_of_found found
      refine ⟨_, set _, fun _ => ?_⟩
      -- The pool has no handle, and no other joiner is there who could hold one.
      have kept := draining.accounted.kept_eq_nil none
      have settled := settled_of_no_handle draining.accounted draining.called draining.quiet kept
        (batches_eq_nil_of_left draining.accounted joins left empty)
      exact ⟨settled.idle, settled.exited, rfl⟩
  | collect found next batch met thread =>
      cases who
      obtain ⟨joins, settles, set⟩ := draining.last_of_found found
      exact ⟨_, set _, by simp [next]⟩
  | notice found next batch met thread =>
      cases who
      obtain ⟨joins, settles, set⟩ := draining.last_of_found found
      exact ⟨_, set _, by simp⟩
  | record found next batch met named thread =>
      cases who
      obtain ⟨joins, settles, set⟩ := draining.last_of_found found
      exact ⟨_, set _, by simp⟩
  | leave found next =>
      cases who
      obtain ⟨joins, settles, set⟩ := draining.last_of_found found
      have settled := settles (.inl next)
      exact ⟨_, set _, fun _ => ⟨settled.idle, settled.exited, settled.kept⟩⟩

theorem Step.joiners_of_isContext (step : Step limit crew actor later)
    (context : actor.isContext) : later.joiners = crew.joiners := by
  cases step with
  | call => rfl
  | spawn => rfl
  | keep => rfl
  | work => rfl
  | _ => cases context

theorem Draining.step {joiners : List Joiner} (draining : crew.Draining joiners)
    (left : ∀ joiner ∈ joiners, joiner.next = .left)
    (may : actor.isWorker ∨ actor = .joiner joiners.length)
    (step : Step limit crew actor later) : later.Draining joiners where
  accounted := draining.accounted.step step
  called := step.called draining.accounted.coherent draining.called
  quiet := by
    refine step.quiet draining.quiet fun index main => ?_
    subst main
    rcases may with impossible | impossible <;> cases impossible
  last := by
    rcases may with worker | rfl
    · cases actor with
      | worker parent =>
          rw [step.joiners_of_isContext rfl]
          rcases draining.last with before | ⟨joiner, joins, settles⟩
          · exact .inl before
          · refine .inr ⟨joiner, joins, fun leaves => ?_⟩
            exact ((settles leaves).not_step step).elim
      | _ => cases worker
    · exact .inr (draining.joiner_step left step)

/-! ## What is left when everything ended -/

theorem Settled.hasThread_eq_isStarted (settled : crew.Settled) (member : call ∈ crew.calls) :
    call.stage.hasThread = call.stage.isStarted := by
  have idle := settled.idle call member
  cases stage : call.stage <;> simp_all [Stage.isBusy, Stage.hasThread, Stage.isStarted]

theorem Settled.exited_of_hasThread (settled : crew.Settled) (coherent : crew.Coherent)
    (member : call ∈ crew.calls) (has : call.stage.hasThread) : call.thread = .exited false :=
  settled.exited call member ((coherent call member).mpr has)

theorem Settled.not_owes (settled : crew.Settled) (coherent : crew.Coherent)
    (member : call ∈ crew.calls) : ¬ call.owes := by
  intro owes
  have idle := settled.idle call member
  cases has : call.stage.hasThread with
  | true =>
      rw [Call.owes_of_hasThread has, settled.exited_of_hasThread coherent member has] at owes
      cases owes
  | false => cases stage : call.stage <;> simp_all [Stage.isBusy, Stage.hasThread, Call.owes]

theorem Settled.not_holdsPlace (settled : crew.Settled) (coherent : crew.Coherent)
    (member : call ∈ crew.calls) : ¬ call.holdsPlace := by
  intro holds
  have idle := settled.idle call member
  cases has : call.stage.hasThread with
  | true =>
      rw [Call.holdsPlace_of_hasThread has, settled.exited_of_hasThread coherent member has] at holds
      cases holds
  | false => cases stage : call.stage <;> simp_all [Stage.isBusy, Stage.hasThread, Call.holdsPlace]

theorem Settled.active (settled : crew.Settled) (balanced : Balanced limit crew) :
    crew.pool.active = 0 := by
  rw [balanced.active, List.countP_eq_zero]
  exact fun call member => settled.not_holdsPlace balanced.coherent member

theorem Settled.handles (settled : crew.Settled) (accounted : crew.Accounted) :
    crew.pool.handles = [] := by
  have named := accounted.named
  rw [settled.kept] at named
  exact List.forall₂_nil_left_iff.mp named

theorem Settled.threads_eq_taken (settled : crew.Settled) (accounted : crew.Accounted) :
    crew.threads = crew.taken := by
  have counted := accounted.counted
  rw [settled.kept, List.length_nil, Nat.zero_add] at counted
  rw [threads, ← counted]
  exact List.countP_congr fun call member => by rw [settled.hasThread_eq_isStarted member]

/-- The outcome of every worker with a number is recorded. -/
theorem Settled.phase_of_named (settled : crew.Settled) (coherent : crew.Coherent)
    (settling : crew.AllSettling) (member : call ∈ crew.calls) {worker : UInt32}
    (named : call.worker? = some worker) :
    crew.pool.phase? worker = some .finished ∨ crew.pool.phase? worker = some .failed := by
  rcases settling call member worker named with ⟨owing, among, -, owes⟩ | ⟨phase, found, final⟩
  · exact absurd owes (settled.not_owes coherent among)
  · rw [found]
    cases phase with
    | finished => exact .inl rfl
    | failed => exact .inr rfl
    | _ => cases final

/-- The outcome of every worker whose thread was started is recorded. -/
theorem Settled.phase (settled : crew.Settled) (coherent : crew.Coherent)
    (settling : crew.AllSettling) (member : call ∈ crew.calls) (present : call.thread ≠ .absent) :
    ∃ worker, call.worker? = some worker ∧
      (crew.pool.phase? worker = some .finished ∨ crew.pool.phase? worker = some .failed) := by
  have has : call.stage.hasThread := (coherent call member).mp present
  have numbered : ∃ worker, call.worker? = some worker := by
    cases stage : call.stage <;> simp_all [Stage.hasThread, Call.worker?]
  obtain ⟨worker, named⟩ := numbered
  exact ⟨worker, named, settled.phase_of_named coherent settling member named⟩

theorem called_empty : Called {} where
  joiner _ member := absurd member List.not_mem_nil
  worker _ _ _ found := by simp at found

theorem called_of_reachable (reached : Reachable limit crew) : crew.Called := by
  have both : crew.Coherent ∧ crew.Called := by
    refine reached.preserve (fun crew => crew.Coherent ∧ crew.Called)
      ⟨coherent_empty, called_empty⟩ ?_
    rintro actor before after - step ⟨coherent, called⟩
    exact ⟨step.coherent coherent, step.called coherent called⟩
  exact both.2

/-- All that was started is joined, and so many threads of it since the pool was drained
before. -/
structure AllJoined (drained closed : Crew) (joined : Nat) : Prop extends closed.Drained where
  ended : ∀ call ∈ closed.calls, call.thread ≠ .absent → call.thread = .exited false ∧
    ∃ worker, call.worker? = some worker ∧
      (closed.pool.phase? worker = some .finished ∨ closed.pool.phase? worker = some .failed)
  phases : ∀ worker phase, closed.pool.phase? worker = some phase →
    phase = .finished ∨ phase = .failed
  active : closed.pool.active = 0
  handles : closed.pool.handles = []
  counted : drained.threads + joined = closed.threads

/-- A run of the guest on a drained pool, whatever becomes of it, and one join after it: when
the join returns, every worker ended and its outcome is recorded, no place is claimed, no
handle is left, and the threads that were started since were each counted once.  The pool is
drained again. -/
theorem allJoined_of_left {drained ended closed : Crew} {joiner : Joiner}
    (reached : Reachable limit drained) (fresh : drained.Drained)
    (ran : Runs limit (fun actor => actor.isContext) drained ended) (quiet : ended.Quiet)
    (joins : Runs limit (fun actor => actor.isWorker ∨ actor = .joiner ended.joiners.length)
      ended closed)
    (returned : closed.joiners[ended.joiners.length]? = some joiner)
    (left : joiner.next = .left) : drained.AllJoined closed joiner.joined := by
  have reachedEnded : Reachable limit ended := reached.trans (ran.mono fun _ _ => trivial)
  have reachedClosed : Reachable limit closed := reachedEnded.trans (joins.mono fun _ _ => trivial)
  have accounted := accounted_of_reachable reachedClosed
  have settling := settling_of_reachable reachedClosed
  have joiners : ended.joiners = drained.joiners :=
    ran.preserve (fun crew => crew.joiners = drained.joiners) rfl
      fun _ _ _ context step same => (step.joiners_of_isContext context).trans same
  have before : ∀ joiner ∈ ended.joiners, joiner.next = .left := by
    rw [joiners]
    exact fresh.left
  have draining : closed.Draining ended.joiners := by
    refine joins.preserve (Draining ended.joiners) ⟨accounted_of_reachable reachedEnded,
      called_of_reachable reachedEnded, quiet, .inl rfl⟩ ?_
    exact fun _ _ _ may step held => held.step before may step
  obtain ⟨all, settled⟩ : closed.joiners = ended.joiners ++ [joiner] ∧ closed.Settled := by
    rcases draining.last with none | ⟨last, all, settles⟩
    · rw [none] at returned
      exact absurd (List.getElem?_eq_some_iff.mp returned).1 (Nat.lt_irrefl _)
    · rw [all, List.getElem?_concat_length] at returned
      obtain rfl := Option.some.inj returned
      exact ⟨all, settles (.inr left)⟩
  refine ⟨⟨settled, ?_⟩, fun call member present => ?_, fun worker phase found => ?_,
    settled.active (balanced_of_reachable reachedClosed), settled.handles accounted, ?_⟩
  · intro other member
    rw [all] at member
    rcases List.mem_append.mp member with old | new
    · exact before other old
    · rw [List.mem_singleton.mp new]
      exact left
  · exact ⟨settled.exited call member present,
      settled.phase accounted.coherent settling member present⟩
  · obtain ⟨call, member, named⟩ := List.mem_filterMap.mp
      ((recorded_of_reachable reachedClosed).mem_numbers found)
    have outcome := settled.phase_of_named accounted.coherent settling member named
    rw [found] at outcome
    exact outcome.imp Option.some.inj Option.some.inj
  · have empty : joiner.batch = [] :=
      accounted.emptied joiner (by simp [all]) (.inr left)
    rw [settled.threads_eq_taken accounted,
      fresh.toSettled.threads_eq_taken (accounted_of_reachable reached)]
    simp [taken, all, joiners, Joiner.taken, empty]

theorem drained_empty : Drained {} where
  idle _ member := absurd member List.not_mem_nil
  exited _ member := absurd member List.not_mem_nil
  kept := rfl
  left _ member := absurd member List.not_mem_nil

/-- A main context started a worker. -/
def oneStarted : Crew where
  pool := {
    nextId := 2
    active := 1
    records := [(1, .spawning), (1, .idle)]
    handles := [1]
    started := [(1, ⟨0, 0, 0⟩)] }
  calls := [{ caller := .main 0, launch := ⟨0, 0, 0⟩, stage := .started 1, thread := .begun }]
  kept := [0]

/-- The worker runs its guest while it is joined. -/
def oneRunning : Crew where
  pool := {
    nextId := 2
    active := 1
    records := [(1, .running), (1, .bootstrapping), (1, .spawning), (1, .idle)]
    started := [(1, ⟨0, 0, 0⟩)] }
  calls := [{ caller := .main 0, launch := ⟨0, 0, 0⟩, stage := .started 1, thread := .running }]
  joiners := [{ batch := [0] }]

/-- The worker started another one, which panicked, and both were joined. -/
def bothJoined : Crew where
  pool := {
    nextId := 3
    records := [(2, .failed), (2, .bootstrapping), (1, .finished), (2, .spawning), (2, .idle),
      (1, .running), (1, .bootstrapping), (1, .spawning), (1, .idle)]
    started := [(1, ⟨0, 0, 0⟩), (2, ⟨0, 0, 0⟩)] }
  calls := [
    { caller := .main 0, launch := ⟨0, 0, 0⟩, stage := .started 1, thread := .exited false },
    { caller := .worker 0, launch := ⟨0, 0, 0⟩, stage := .started 2, thread := .exited false }]
  joiners := [{ joined := 2, next := .left }]

theorem runs_oneStarted : Runs none (· = .main 0) {} oneStarted := by
  have spawned : Pool.spawn {} none ⟨0, 0, 0⟩ = .ok (1, oneStarted.pool) := rfl
  exact runs_of_spawn ⟨by simp [Busy], trivial⟩ spawned

theorem runs_bothJoined :
    Runs none (fun actor => actor.isWorker ∨ actor = .joiner 0) oneStarted bothJoined := by
  let may : Actor → Prop := fun actor => actor.isWorker ∨ actor = .joiner 0
  have joiner : may (.joiner 0) := .inr rfl
  have worker (place : Nat) : may (.worker place) := .inl rfl
  have taken : Runs none may oneStarted _ :=
    (Runs.refl.step joiner .join).step joiner (.take rfl rfl rfl (by decide))
  have running : Runs none may oneStarted oneRunning :=
    (taken.step (worker 0) (.work rfl (by unfold Busy; decide) (.boot rfl rfl))).step (worker 0)
      (.work rfl (by unfold Busy; decide) (.run rfl rfl))
  have free : oneRunning.MayCall (.worker 0) := ⟨by unfold Busy; decide, _, rfl, rfl⟩
  have spawned : oneRunning.pool.spawn none ⟨0, 0, 0⟩ = .ok (2, _) := rfl
  have second : Runs none may oneStarted _ :=
    running.trans ((runs_of_spawn free spawned).mono fun _ same => same ▸ worker 0)
  have ended : Runs none may oneStarted _ :=
    (second.step (worker 0) (.work rfl (by unfold Busy; decide) (.finish rfl rfl))).step (worker 0)
      (.work rfl (by unfold Busy; decide) (.exit rfl))
  have again : Runs none may oneStarted _ :=
    (ended.step joiner (.collect rfl rfl rfl rfl rfl)).step joiner (.take rfl rfl rfl (by decide))
  have booted : Runs none may oneStarted _ :=
    again.step (worker 1) (.work rfl (by unfold Busy; decide) (.boot rfl rfl))
  have panicked : Runs none may oneStarted _ :=
    (booted.step (worker 1) (.work rfl (by unfold Busy; decide) (.panic rfl))).step (worker 1)
      (.work rfl (by unfold Busy; decide) (.unwind rfl))
  have recorded : Runs none may oneStarted _ :=
    (panicked.step joiner (.notice rfl rfl rfl rfl rfl)).step joiner
      (.record rfl rfl rfl rfl rfl rfl)
  have closed : Runs none may oneStarted _ :=
    (recorded.step joiner (.takeNone rfl rfl rfl rfl)).step joiner (.leave rfl rfl)
  exact closed

theorem quiet_oneStarted : oneStarted.Quiet := by
  intro index
  simp [Busy, oneStarted, Stage.isBusy]

end Crew

end WasmBridge
