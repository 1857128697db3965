import WasmBridge.Command.Run
import WasmBridge.Proofs.Context.Fixtures
import WasmBridge.Proofs.Worker.Sessions

/-!
# Runs that wait for their workers

The command that runs a guest joins the workers before it reports, whatever became of the guest.
A join takes the handles of the pool and waits for the thread of each, as long as there are
any.  It is one who joins workers in a crew; so when it returns everything ended.
-/

namespace WasmBridge

open Crew

variable {host : Host} {crew later : Crew} {adopted : List (UInt32 × Wire.Launch)}
  {session next : Session} {shared : Shared} {worker : UInt32} {place index joined total : Nat}

namespace Session

/-! ## Joins -/

/-- A step of one who joins workers leaves the session where it is, but for the handles. -/
theorem Follows.joiner_step (follows : session.Follows host adopted crew)
    (step : Step host.config.workers crew (.joiner index) later)
    (calls : later.calls = crew.calls) (tracks : later.Tracks adopted shared.pool)
    (started : shared.pool.started = session.shared.pool.started) :
    Follows host adopted later { session with shared } where
  hosted := follows.hosted
  reached := follows.reached.step trivial step
  tracks := tracks
  quiet index := by
    unfold Busy
    rw [calls]
    exact follows.quiet index
  roster := by
    obtain ⟨running, begun, roster, same, begins⟩ := follows.roster
    have other (place : Nat) : Actor.joiner index ≠ .worker place := nofun
    exact ⟨running, begun, roster.stay (.step .refl other step) calls, same,
      begins.trans started.symm⟩

/-- The thread of a worker that is not among those of the session any more exited. -/
theorem Follows.exited (follows : session.Follows host adopted crew)
    (named : crew.workerAt place = some worker) (present : crew.Present place)
    (ended : hasEnded worker session = true) : crew.Exited place := by
  obtain ⟨running, begun, roster, same, started⟩ := follows.roster
  simp only [hasEnded, Bool.and_eq_true, Bool.not_eq_true', List.any_eq_false, beq_iff_eq] at ended
  refine roster.exited named present (fun entry member => ?_) fun entry member => ?_
  · exact ended.2 entry.2 (same.mem_iff.mp (List.mem_map_of_mem member))
  · exact ended.1 entry.2 (started ▸ List.mem_map_of_mem member)

/-- Who makes the steps of a join: workers and the one that joins them. -/
def Joins (index : Nat) (actor : Actor) : Prop :=
  actor.isWorker ∨ actor = .joiner index

theorem joiners_of_isWorker
    (runs : Runs host.config.workers (fun actor => actor.isWorker) crew later) :
    later.joiners = crew.joiners :=
  runs.preserve (fun now => now.joiners = crew.joiners) rfl fun _ _ _ worker step same =>
    (step.joiners_of_isContext (Actor.isContext_of_isWorker worker)).trans same

/-- To wait until the thread of a worker ended is to collect it. -/
theorem Follows.collect {batch : List Nat} (follows : session.Follows host adopted crew)
    (named : crew.workerAt place = some worker) (present : crew.Present place)
    (found : crew.joiners[index]? = some ⟨joined, place :: batch, .collecting⟩)
    (waits : session.turnsUntil? (hasEnded worker) = some next) :
    ∃ taken later, Runs host.config.workers (Joins index) crew later ∧
      next.Follows host taken later ∧
      later.joiners[index]? = some ⟨joined + 1, batch, .collecting⟩ := by
  obtain ⟨ended, taken, between, runs, waited⟩ := follows.turnsUntil waits
  have stands : between.joiners[index]? = some ⟨joined, place :: batch, .collecting⟩ := by
    rw [joiners_of_isWorker runs, found]
  obtain ⟨call, met, exited⟩ := waited.exited (runs.workerAt named) (runs.present present) ended
  have step : Step host.config.workers between (.joiner index) _ :=
    .collect stands rfl rfl met exited
  refine ⟨taken, _, (runs.mono fun _ => .inl).step (.inr rfl) step,
    waited.joiner_step step rfl waited.tracks rfl, ?_⟩
  exact List.getElem?_set_self (List.getElem?_eq_some_iff.mp stands).1

/-- To join workers one after the other is to collect the threads of a batch. -/
theorem Follows.joinEach {batch : List Nat} {workers : List UInt32}
    (named : List.Forall₂ (fun place worker => crew.workerAt place = some worker) batch workers)
    (follows : session.Follows host adopted crew) (present : ∀ place ∈ batch, crew.Present place)
    (found : crew.joiners[index]? = some ⟨joined, batch, .collecting⟩)
    (joins : session.joinEach? workers = some next) :
    ∃ taken later, Runs host.config.workers (Joins index) crew later ∧
      next.Follows host taken later ∧
      later.joiners[index]? = some ⟨joined + workers.length, [], .collecting⟩ := by
  induction batch generalizing session crew adopted workers joined with
  | nil =>
      cases named
      cases joins
      exact ⟨adopted, crew, .refl, follows, found⟩
  | cons place batch ih =>
      cases named with
      | cons first rest =>
          obtain ⟨middle, waits, goesOn⟩ := Option.bind_eq_some_iff.mp joins
          obtain ⟨here, others⟩ := List.forall_mem_cons.mp present
          obtain ⟨taken, between, runs, collected, stands⟩ :=
            follows.collect first here found waits
          obtain ⟨last, final, more, ends, all⟩ := ih
            (rest.imp fun _ _ named => runs.workerAt named) collected
            (fun place member => runs.present (others place member)) stands goesOn
          refine ⟨last, final, runs.trans more, ends, ?_⟩
          rw [all, List.length_cons, Nat.add_assoc, Nat.add_comm 1]

theorem takeHandles_of_nil {pool : Pool} (none : pool.handles = []) :
    pool.takeHandles.2 = pool := by
  rw [Pool.takeHandles, ← none]

/-- One who joins workers and finds no handle leaves. -/
theorem Follows.leave (follows : session.Follows host adopted crew)
    (found : crew.joiners[index]? = some ⟨joined, [], .collecting⟩)
    (none : session.shared.pool.handles = []) :
    ∃ later, Runs host.config.workers (Joins index) crew later ∧
      session.Follows host adopted later ∧ later.joiners[index]? = some ⟨joined, [], .left⟩ := by
  have tracks := follows.tracks
  have empty : crew.pool.handles = [] := by rw [tracks, none]
  have within := (List.getElem?_eq_some_iff.mp found).1
  have takes : Step host.config.workers crew (.joiner index) _ := .takeNone found rfl rfl empty
  have taken := follows.joiner_step takes rfl
    (by rw [Tracks, takeHandles_of_nil empty]; exact tracks) rfl
  have leaves : Step host.config.workers { crew with
      pool := crew.pool.takeHandles.2
      kept := []
      joiners := crew.joiners.set index ⟨joined, [], .leaving⟩ } (.joiner index) _ :=
    .leave (List.getElem?_set_self within) rfl
  refine ⟨_, (Runs.refl.step (.inr rfl) takes).step (.inr rfl) leaves,
    taken.joiner_step leaves rfl taken.tracks rfl, ?_⟩
  exact List.getElem?_set_self (by rwa [List.length_set])

/-- One who joins workers and finds handles takes them. -/
theorem Follows.take (follows : session.Follows host adopted crew)
    (found : crew.joiners[index]? = some ⟨joined, [], .collecting⟩)
    (any : session.shared.pool.handles ≠ []) :
    ∃ later batch, Step host.config.workers crew (.joiner index) later ∧
      Follows host adopted later { session with
        shared := { session.shared with pool := session.shared.pool.takeHandles.2 } } ∧
      List.Forall₂ (fun place worker => later.workerAt place = some worker) batch
        session.shared.pool.handles ∧
      (∀ place ∈ batch, later.Present place) ∧
      later.joiners[index]? = some ⟨joined, batch, .collecting⟩ := by
  have tracks := follows.tracks
  have handles : crew.pool.handles = session.shared.pool.handles := by rw [tracks]
  have takes : Step host.config.workers crew (.joiner index) _ :=
    .take found rfl rfl (by rwa [← handles] at any)
  refine ⟨_, crew.kept, takes, follows.joiner_step takes rfl ?_ rfl, ?_, ?_, ?_⟩
  · rw [Tracks, tracks]
    rfl
  · rw [← handles]
    exact (accounted_of_reachable follows.reached).named
  · exact present_of_kept follows.reached
  · exact List.getElem?_set_self (List.getElem?_eq_some_iff.mp found).1

/-- From a crew on, one who began to join workers joined so many of them while a session went on,
holds none in its batch, and has this to do next. -/
def Joined (host : Host) (crew : Crew) (next : Joining) (counted : Nat × Session) : Prop :=
  ∃ taken later, Runs host.config.workers (Joins crew.joiners.length) crew later ∧
    counted.2.Follows host taken later ∧
    later.joiners[crew.joiners.length]? = some ⟨counted.1, [], next⟩

/-- One who joins workers has left when its round finds no handle. -/
theorem Joined.left {counted : Nat × Session} (stands : Joined host crew .collecting counted)
    (ends : joinRound counted = .inl (total, next)) : Joined host crew .left (total, next) := by
  obtain ⟨taken, later, runs, follows, found⟩ := stands
  unfold joinRound at ends
  dsimp only at ends
  split at ends
  next none =>
    cases ends
    obtain ⟨last, rest, same, left⟩ := follows.leave found (List.isEmpty_iff.mp none)
    exact ⟨taken, last, runs.trans rest, same, left⟩
  next => cases ends

/-- After a round with some handles one who joins workers looks for others. -/
theorem Joined.round {counted later : Nat × Session} (stands : Joined host crew .collecting counted)
    (goes : joinRound counted = .inr (some later)) : Joined host crew .collecting later := by
  obtain ⟨taken, now, runs, follows, found⟩ := stands
  unfold joinRound at goes
  dsimp only at goes
  split at goes
  next => cases goes
  next any =>
    obtain ⟨after, joins, rfl⟩ := Option.map_eq_some_iff.mp (Sum.inr.inj goes)
    obtain ⟨between, batch, takes, taken, named, present, stands⟩ :=
      follows.take found fun none => any (List.isEmpty_iff.mpr none)
    obtain ⟨adopts, last, rest, collected, empty⟩ := taken.joinEach named present stands joins
    exact ⟨adopts, last, (runs.step (.inr rfl) takes).trans rest, collected, empty⟩

/-- When a join has returned, one who began to join workers has left, with so many threads
joined. -/
theorem Follows.join (follows : session.Follows host adopted crew)
    (returns : session.join? = some (total, next)) : Joined host crew .left (total, next) := by
  have begins : Step host.config.workers crew (.joiner crew.joiners.length) _ := .join
  have began : Joined host crew .collecting (0, session) :=
    ⟨adopted, _, Runs.refl.step (.inr rfl) begins,
      follows.joiner_step begins rfl follows.tracks rfl, List.getElem?_concat_length⟩
  exact untilAnswer?_of_kept (Joined host crew .collecting) (Joined host crew .left)
    (fun _ _ stands => stands.left) (fun _ _ stands => stands.round) began returns

/-! ## When everything ended -/

/-- Nothing is left of the workers of a session: no thread waits or is to begin, no handle is
kept, no place is claimed, and every worker is in a final phase. -/
structure Concluded (session : Session) : Prop where
  threads : session.threads = []
  started : session.shared.pool.started = []
  handles : session.shared.pool.handles = []
  active : session.shared.pool.active = 0
  phases : ∀ worker phase, session.shared.pool.phase? worker = some phase →
    phase = .finished ∨ phase = .failed

theorem Follows.concluded {drained : Crew} (follows : session.Follows host adopted crew)
    (all : drained.AllJoined crew joined) : session.Concluded := by
  have tracks := follows.tracks
  obtain ⟨running, begun, roster, same, started⟩ := follows.roster
  have gone {place : Nat} {worker : UInt32}
      (here : crew.At place worker fun progress => progress.mayPanic) : False := by
    obtain ⟨call, found, -, alive⟩ := here.call
    have exited := (all.ended call (List.mem_of_getElem? found)
      (Progress.ne_absent_of_mayPanic alive)).1
    rw [exited] at alive
    cases alive
  refine ⟨?_, ?_, ?_, ?_, fun worker phase found => all.phases worker phase ?_⟩
  · refine List.eq_nil_iff_forall_not_mem.mpr fun entry member => ?_
    obtain ⟨waiting, among, -⟩ := List.mem_map.mp (same.mem_iff.mpr member)
    exact gone (roster.waits waiting among).here
  · refine List.eq_nil_iff_forall_not_mem.mpr fun entry member => ?_
    rw [← started] at member
    obtain ⟨first, among, -⟩ := List.mem_map.mp member
    exact gone ((roster.begins first among).imp fun _ same => by rw [same]; rfl)
  · have handles := all.handles
    rwa [tracks] at handles
  · have active := all.active
    rwa [tracks] at active
  · rw [tracks]
    exact found

/-- A session that ran its guest and joined the workers is at its end, and the join counted all
threads that were started. -/
theorem concluded_of_join {heap : Heap} {functions : Functions} {result : Except Fault Unit}
    {ran closed : Session}
    (runs : (Session.new host heap functions).run? = some (result, ran))
    (joins : ran.join? = some (joined, closed)) :
    closed.Concluded ∧
      ∃ adopted crew, closed.Follows host adopted crew ∧ AllJoined {} crew joined := by
  obtain ⟨adopted, ended, contexts, follows⟩ := (Follows.of_new host heap functions).run runs
  obtain ⟨taken, crew, rest, closes, left⟩ := follows.join joins
  have all : AllJoined {} crew joined :=
    allJoined_of_left .refl drained_empty contexts follows.quiet rest left rfl
  exact ⟨closes.concluded all, taken, crew, closes, all⟩

end Session

namespace Command

/-! ## Reports -/

theorem runHost?_eq_some_iff {heap : Heap} {report : RunReport} :
    runHost? host heap = some report ↔ ∃ result ran joined closed,
      (Session.new host heap #[]).run? = some (result, ran) ∧
      ran.join? = some (joined, closed) ∧
      report.result = result.mapError .guest ∧
      report.log = closed.shared.log.toList ++
        if result.isOk then [(mainContext, .guestFinished joined)] else [] := by
  obtain ⟨told, log⟩ := report
  unfold runHost?
  simp only [bind, Option.bind_eq_some_iff, Prod.exists]
  refine exists_congr fun result => exists_congr fun ran => ?_
  constructor
  · rintro ⟨runs, joined, closed, joins, ends⟩
    refine ⟨joined, closed, runs, joins, ?_⟩
    cases result with
    | ok value =>
        cases ends
        exact ⟨rfl, rfl⟩
    | error fault =>
        cases ends
        exact ⟨rfl, (List.append_nil _).symm⟩
  · rintro ⟨joined, closed, runs, joins, rfl, rfl⟩
    refine ⟨runs, joined, closed, joins, ?_⟩
    cases result with
    | ok value => rfl
    | error fault =>
        simp only [Except.isOk, Except.toBool, Bool.false_eq_true, if_false, List.append_nil]
        rfl

/-- What goes wrong before there is a host is no fault of a guest. -/
theorem readGlobal_ne_guest {heap : Heap} {text : String} {fault : Fault} :
    readGlobal heap text ≠ .error (.guest fault) := by
  unfold readGlobal
  split
  · nofun
  · split
    · nofun
    · split <;> nofun

theorem setGlobals_ne_guest {object : ObjectId} {heap : Heap} {globals : List String}
    {fault : Fault} : setGlobals object heap globals ≠ .error (.guest fault) := by
  induction globals generalizing heap with
  | nil => nofun
  | cons text globals ih =>
      unfold setGlobals
      cases read : readGlobal heap text with
      | error failure =>
          intro failed
          cases failed
          exact readGlobal_ne_guest read
      | ok known => exact ih

theorem prepare_ne_guest {environment : Environment} {options : RunOptions}
    {machineThreads : UInt32} {fault : Fault} :
    prepare environment options machineThreads ≠ .error (.guest fault) := by
  unfold prepare
  cases read : Configuration.ofEnvironment environment with
  | error cause => nofun
  | ok config =>
      dsimp only [Except.mapError, bind, Except.bind]
      split
      next failed =>
        intro same
        cases same
        exact setGlobals_ne_guest failed
      next => nofun

/-- The command reports what became of a guest only where a host was built and its guest was
run. -/
theorem runHost?_of_run? {file : ModuleFile} {environment : Environment} {options : RunOptions}
    {machineThreads : UInt32} {report : RunReport} {result : Except Fault Unit}
    (runs : run? file environment options machineThreads = some report)
    (told : report.result = result.mapError .guest) :
    ∃ builder heap host files inner,
      prepare environment options machineThreads = .ok (builder, heap) ∧
      builder.load file = .ok (host, files) ∧ runHost? host heap = some inner ∧
      report = { inner with log := (mainContext, .loadingGuest file.path.display) ::
        (mainContext, host.readyEvent) :: inner.log } := by
  have differs {failure : Failure} (same : .error failure = result.mapError Failure.guest) :
      ∃ fault, failure = .guest fault := by
    cases result with
    | ok value => cases same
    | error fault =>
        cases same
        exact ⟨fault, rfl⟩
  unfold run? at runs
  split at runs
  · cases runs
    obtain ⟨fault, same⟩ := differs told
    cases same
  · split at runs
    next failure failed =>
      cases runs
      obtain ⟨fault, rfl⟩ := differs told
      exact absurd failed prepare_ne_guest
    next builder heap prepared =>
      unfold runFile? at runs
      dsimp only at runs
      split at runs
      next failed =>
        cases runs
        obtain ⟨fault, same⟩ := differs told
        cases same
      next host files loaded =>
        obtain ⟨inner, runsHost, same⟩ := Option.bind_eq_some_iff.mp runs
        cases same
        exact ⟨builder, heap, host, files, inner, prepared, loaded, runsHost, rfl⟩

/--
In every order of the steps, a run of the guest and one join after it, while no other main
context starts workers, leave nothing: every worker ended and its outcome is recorded, no place
is claimed, no handle is left, and the join counted each thread that was started since the pool
was drained.  The command is such a run: it has a report exactly if the guest came to a result
and the join returned; then nothing is left of the workers in its session, and the report is
that result.
-/
theorem reports_after_all_ended :
    (∀ (limit : Option UInt32) (drained ended closed : Crew) (joiner : Joiner),
      Reachable limit drained → drained.Drained →
      Runs limit (fun actor => actor.isContext) drained ended → ended.Quiet →
      Runs limit (fun actor => actor.isWorker ∨ actor = .joiner ended.joiners.length)
        ended closed →
      closed.joiners[ended.joiners.length]? = some joiner → joiner.next = .left →
      drained.AllJoined closed joiner.joined) ∧
    (∀ (host : Host) (heap : Heap) (report : RunReport),
      runHost? host heap = some report ↔ ∃ result ran joined closed,
        (Session.new host heap #[]).run? = some (result, ran) ∧
        ran.join? = some (joined, closed) ∧
        (closed.Concluded ∧
          ∃ adopted crew, closed.Follows host adopted crew ∧ AllJoined {} crew joined) ∧
        report.result = result.mapError .guest ∧
        report.log = closed.shared.log.toList ++
          if result.isOk then [(mainContext, .guestFinished joined)] else []) ∧
    ∀ (file : ModuleFile) (environment : Environment) (options : RunOptions)
      (machineThreads : UInt32) (report : RunReport) (result : Except Fault Unit),
      run? file environment options machineThreads = some report →
      report.result = result.mapError .guest →
      ∃ builder heap host files inner,
        prepare environment options machineThreads = .ok (builder, heap) ∧
        builder.load file = .ok (host, files) ∧ runHost? host heap = some inner ∧
        report = { inner with log := (mainContext, .loadingGuest file.path.display) ::
          (mainContext, host.readyEvent) :: inner.log } := by
  refine ⟨fun limit drained ended closed joiner => allJoined_of_left, fun host heap report => ?_,
    fun file environment options machineThreads report result => runHost?_of_run?⟩
  rw [runHost?_eq_some_iff]
  constructor
  · rintro ⟨result, ran, joined, closed, runs, joins, told⟩
    exact ⟨result, ran, joined, closed, runs, joins, Session.concluded_of_join runs joins, told⟩
  · rintro ⟨result, ran, joined, closed, runs, joins, -, told⟩
    exact ⟨result, ran, joined, closed, runs, joins, told⟩

end Command

/-! ## A run with a worker -/

namespace Session

theorem finish?_done {α : Type} (session : Session) (shared : Shared) (value : α) :
    session.finish? (.done shared value) = some (value, { session with shared }) :=
  untilAnswer?_of_answer rfl

/-- An attempt that never waits makes a context at once, or none if it fails. -/
theorem create?_of_done {attempt : Attempt Unit} {result : Except Fault Unit} {context : Context}
    (done : attempt.run (Context.new session.host mainContext) session.shared =
      .done shared (result, context)) :
    session.create? attempt = some (result, { session with
      shared
      contexts := if result.isOk then session.contexts.push context else session.contexts }) := by
  have acts : session.act? (Context.new session.host mainContext) attempt.run =
      some ((result, context), { session with shared }) :=
    (congrArg session.finish? done).trans (session.finish?_done shared _)
  rw [create?, acts]
  cases result <;> rfl

theorem joinRound_of_none (none : session.shared.pool.handles = []) :
    joinRound (joined, session) = .inl (joined, session) := by
  simp [joinRound, Pool.takeHandles, none]

theorem join?_of_none (none : session.shared.pool.handles = []) :
    session.join? = some (0, session) :=
  untilAnswer?_of_answer (joinRound_of_none none)

/-- A worker that ends with its first turn is joined. -/
theorem join?_of_turn {taken : Session} (one : session.shared.pool.handles = [worker])
    (takes : taken = { session with
      shared := { session.shared with pool := session.shared.pool.takeHandles.2 } })
    (runs : hasEnded worker taken = false) (turned : taken.turn? = some next)
    (ended : hasEnded worker next = true) (none : next.shared.pool.handles = []) :
    session.join? = some (1, next) := by
  have waits : taken.turnsUntil? (hasEnded worker) = some next :=
    (untilAnswer?_of_next (by rw [turnUnless, runs, turned]; rfl)).trans
      (untilAnswer?_of_answer (by rw [turnUnless, ended]; rfl))
  have round : joinRound (0, session) = .inr (some (1, next)) := by
    subst takes
    simp only [joinRound, Pool.takeHandles, one, joinEach?, List.foldlM_cons, List.foldlM_nil]
      at waits ⊢
    rw [waits]
    rfl
  exact (untilAnswer?_of_next round).trans (untilAnswer?_of_answer (joinRound_of_none none))

end Session

/-- A host whose guest starts a worker as soon as it begins. -/
def Host.starting : Host :=
  .ofModule "starting" {
    imports := [⟨"env", "memory", .memory { minimum := 1, maximum := some 1, «shared» := true }⟩]
    functions := [
      { name := "main", body := [.compute (.send (.word 1) (.word 6) (.word 0) (.word 12))] },
      { name := Wasm.Abi.workerEntry, type := Wasm.Abi.wordType }] }
    (.shared ⟨"env", "memory", 1, 1⟩)

/-- The file of a module with no entry. -/
def ModuleFile.idle : ModuleFile where
  path := [0x61]
  content := .bytes Wasm.emptyBinary

namespace Command

theorem runHost?_starting :
    ∃ log, runHost? Host.starting {} = some ⟨.ok (), log⟩ ∧
      (mainContext, .guestFinished 1) ∈ log :=
  ⟨_, runHost?_eq_some_iff.mpr ⟨.ok (), _, 1, _, Session.create?_of_done rfl,
    Session.join?_of_turn rfl rfl rfl rfl rfl rfl, rfl, rfl⟩,
    List.mem_append_right _ (List.mem_singleton_self _)⟩

theorem run?_idle :
    ∃ log, run? .idle {} {} 1 =
      some ⟨.error (.guest (.missingExport "main or _start")), log⟩ := by
  have ends : ∃ builder heap host files log, prepare {} {} 1 = .ok (builder, heap) ∧
      builder.load .idle = .ok (host, files) ∧
      runHost? host heap = some ⟨.error (.guest (.missingExport "main or _start")), log⟩ :=
    ⟨_, _, _, _, _, rfl, rfl, runHost?_eq_some_iff.mpr ⟨.error _, _, 0, _,
      Session.create?_of_done rfl, Session.join?_of_none rfl, rfl, rfl⟩⟩
  obtain ⟨builder, heap, host, files, log, prepared, loaded, runs⟩ := ends
  refine ⟨(mainContext, .loadingGuest ModuleFile.idle.path.display) ::
    (mainContext, host.readyEvent) :: log, ?_⟩
  simp only [run?, runFile?, prepared, loaded, runs]
  rfl

/-- The general result for a worker that starts another one, for a guest that starts a worker,
and for a file whose module has no entry. -/
theorem reports_after_all_ended_starting :
    AllJoined {} bothJoined 2 ∧
    (∃ log, runHost? Host.starting {} = some ⟨.ok (), log⟩ ∧
      (mainContext, .guestFinished 1) ∈ log ∧
      ∃ result ran joined closed, (Session.new Host.starting {} #[]).run? = some (result, ran) ∧
        ran.join? = some (joined, closed) ∧ closed.Concluded ∧ Except.ok () = result) ∧
    ∃ log, run? .idle {} {} 1 = some ⟨.error (.guest (.missingExport "main or _start")), log⟩ ∧
      ∃ builder heap host files, prepare {} {} 1 = .ok (builder, heap) ∧
        builder.load .idle = .ok (host, files) ∧ (runHost? host heap).isSome := by
  refine ⟨?_, ?_, ?_⟩
  · exact reports_after_all_ended.1 none {} oneStarted bothJoined ⟨2, [], .left⟩ .refl drained_empty
      (runs_oneStarted.mono fun _ same => same ▸ rfl) quiet_oneStarted runs_bothJoined rfl rfl
  · obtain ⟨log, runs, one⟩ := runHost?_starting
    obtain ⟨result, ran, joined, closed, ends, joins, ⟨concluded, -⟩, told, -⟩ :=
      (reports_after_all_ended.2.1 _ _ _).mp runs
    refine ⟨log, runs, one, result, ran, joined, closed, ends, joins, concluded, ?_⟩
    cases result with
    | ok value => rfl
    | error fault => cases told
  · obtain ⟨log, runs⟩ := run?_idle
    obtain ⟨builder, heap, host, files, inner, prepared, loaded, runsHost, -⟩ :=
      reports_after_all_ended.2.2 _ _ _ _ _ (.error _) runs rfl
    exact ⟨log, runs, builder, heap, host, files, prepared, loaded,
      Option.isSome_of_eq_some runsHost⟩

end Command

end WasmBridge
