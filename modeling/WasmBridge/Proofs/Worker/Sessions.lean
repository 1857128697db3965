import WasmBridge.Proofs.Worker.Roster
import WasmBridge.Session

/-!
# Sessions follow the steps

A session lets main contexts act one at a time and gives turns to workers while somebody waits.
Whatever it comes to, its pool is that of a crew that came there by steps of main contexts and
of workers; so what holds in every order of the steps holds of every session.
-/

namespace WasmBridge

open Crew

variable {host : Host} {limit : Option UInt32} {actor : Actor} {crew later : Crew} {place : Nat}
  {adopted : List (UInt32 × Wire.Launch)}

/-! ## Sessions -/

/-- A session of a host is where a crew came to: the pools agree, its threads wait, and its
main contexts are not about to start workers. -/
structure Session.Follows (host : Host) (adopted : List (UInt32 × Wire.Launch)) (crew : Crew)
    (session : Session) : Prop where
  hosted : session.host = host
  reached : Reachable host.config.workers crew
  tracks : crew.Tracks adopted session.shared.pool
  quiet : crew.Quiet
  roster : ∃ running begun, Roster host.config.workers (.main 0) running begun crew ∧
    (running.map Prod.snd).Perm session.threads ∧
    begun.map Prod.snd = session.shared.pool.started

theorem Crew.Tracks.started {pool after : Pool} {more : List (UInt32 × Wire.Launch)}
    (tracks : crew.Tracks adopted pool) (same : later.Tracks adopted after)
    (grown : later.pool.started = crew.pool.started ++ more) :
    after.started = pool.started ++ more := by
  rw [tracks, same, List.append_assoc] at grown
  exact List.append_cancel_left grown

namespace Session.Follows

variable {session next : Session} {shared : Shared}

theorem of_new (host : Host) (heap : Heap) (functions : Functions) :
    (Session.new host heap functions).Follows host [] {} where
  hosted := rfl
  reached := .refl
  tracks := rfl
  quiet _ busy := by simp [Busy] at busy
  roster := by
    refine ⟨[], [], ⟨List.nodup_nil, List.forall_mem_nil _, List.forall_mem_nil _,
      List.forall_mem_nil _, ?_⟩, .refl _, rfl⟩
    rintro place ⟨call, found, -⟩
    simp at found

theorem adopt (follows : session.Follows host adopted crew) :
    ∃ taken, session.adopt.Follows host taken crew ∧ session.adopt.shared.pool.started = [] := by
  obtain ⟨running, begun, roster, same, started⟩ := follows.roster
  have tracks := follows.tracks
  refine ⟨adopted ++ session.shared.pool.started,
    ⟨follows.hosted, follows.reached, ?_, follows.quiet, ?_⟩, rfl⟩
  · rw [Tracks, tracks]
    simp [Session.adopt, Pool.takeStarted]
  · refine ⟨_, [], roster.adopt session.adopt.shared, ?_, rfl⟩
    have threads : session.adopt.threads = session.threads ++ session.shared.pool.started.map
        fun entry => (entry.1, session.host.workerThread session.adopt.shared entry.1 entry.2) :=
      rfl
    rw [threads, ← started, follows.hosted, List.map_append]
    refine same.append (.of_eq ?_)
    simp [Function.comp_def]

/-- The steps of one leave the others where they were. -/
theorem roster_runs {running : List (Nat × UInt32 × Thread Shared Unit)}
    {begun : List (Nat × UInt32 × Wire.Launch)} (follows : session.Follows host adopted crew)
    (roster : Roster host.config.workers actor running begun crew)
    (started : begun.map Prod.snd = session.shared.pool.started)
    (runs : Runs host.config.workers (· = actor) crew later)
    (alive : ∀ place, actor = .worker place → crew.Present place)
    (tracks : later.Tracks adopted shared.pool) :
    ∃ begun, Roster host.config.workers actor running begun later ∧
      begun.map Prod.snd = shared.pool.started := by
  obtain ⟨more, grown, after⟩ := roster.runs runs follows.reached alive
  refine ⟨_, after, ?_⟩
  rw [List.map_append, started, follows.tracks.started tracks grown]

theorem main_runs (follows : session.Follows host adopted crew)
    (runs : Runs host.config.workers (· = .main 0) crew later)
    (tracks : later.Tracks adopted shared.pool) (free : ¬ later.Busy (.main 0)) :
    Follows host adopted later { session with shared } where
  hosted := follows.hosted
  reached := follows.reached.trans (runs.mono fun _ _ => trivial)
  tracks := tracks
  quiet index := by
    by_cases first : index = 0
    · rwa [first]
    · refine not_busy_of_others (follows.quiet index) (runs.mono ?_)
      rintro actor rfl same
      exact first (Actor.main.inj same).symm
  roster := by
    obtain ⟨running, begun, roster, same, started⟩ := follows.roster
    obtain ⟨begun, after, started⟩ :=
      follows.roster_runs roster started runs (fun _ => nofun) tracks
    exact ⟨running, begun, after, same, started⟩

end Session.Follows

/-- A session goes on from where a crew is by steps of those who may. -/
def Session.Proceeds (host : Host) (may : Actor → Prop) (crew : Crew) (session : Session) : Prop :=
  ∃ adopted later, Runs host.config.workers may crew later ∧ session.Follows host adopted later

namespace Session

variable {session next : Session} {shared : Shared}

theorem Proceeds.after {may : Actor → Prop} (proceeds : session.Proceeds host may later)
    (runs : Runs host.config.workers may crew later) : session.Proceeds host may crew := by
  obtain ⟨adopted, last, rest, follows⟩ := proceeds
  exact ⟨adopted, last, runs.trans rest, follows⟩

/-! ## Turns of workers -/

/-- A turn lets one thread go on, which stays among the threads if it waits again. -/
theorem turn?_go_cases {before threads : List (UInt32 × Thread Shared Unit)}
    (turned : turn?.go session before threads = some next) :
    ∃ passed worker thread rest after, threads = passed ++ (worker, thread) :: rest ∧
      resume session.shared thread = some after ∧
      ((∃ shared, after = .done shared () ∧ next = Session.adopt { session with
          shared, threads := before.reverse ++ passed ++ rest }) ∨
        ∃ shared ready resumes, after = .waiting shared ready resumes ∧
          next = Session.adopt { session with
            shared, threads := before.reverse ++ passed ++ rest ++ [(worker, after)] }) := by
  induction threads generalizing before with
  | nil => cases turned
  | cons entry threads ih =>
      obtain ⟨worker, thread⟩ := entry
      unfold turn?.go at turned
      cases resumed : resume session.shared thread with
      | none =>
          rw [resumed] at turned
          obtain ⟨passed, other, found, rest, after, rfl, goes, ends⟩ := ih turned
          refine ⟨(worker, thread) :: passed, other, found, rest, after, rfl, goes, ?_⟩
          simpa using ends
      | some after =>
          rw [resumed] at turned
          refine ⟨[], worker, thread, threads, after, rfl, resumed, ?_⟩
          cases after with
          | done shared value =>
              refine .inl ⟨shared, rfl, ?_⟩
              simpa [Thread.state] using (Option.some.inj turned).symm
          | waiting shared ready resumes =>
              refine .inr ⟨shared, ready, resumes, rfl, ?_⟩
              simpa [Thread.state] using (Option.some.inj turned).symm

/-- A thread that goes on makes steps of its worker. -/
theorem Follows.resume {thread after : Thread Shared Unit}
    (follows : session.Follows host adopted crew)
    (waits : thread.Waits host.config.workers place worker crew)
    (resumed : Session.resume session.shared thread = some after) :
    after.Follows host.config.workers (.worker place) (fun later _ => later.Exited place) adopted
      crew := by
  cases thread with
  | done shared value => cases waits
  | waiting shared ready resumes =>
      obtain ⟨-, resumes⟩ := waits
      unfold Session.resume at resumed
      dsimp only at resumed
      split at resumed
      · cases resumed
        exact resumes adopted crew session.shared .refl follows.tracks
      · cases resumed

theorem Follows.worker_runs {threads : List (UInt32 × Thread Shared Unit)}
    (follows : session.Follows host adopted crew)
    (runs : Runs host.config.workers (· = .worker place) crew later)
    (tracks : later.Tracks adopted shared.pool)
    (roster : ∃ running begun, Roster host.config.workers (.main 0) running begun later ∧
      (running.map Prod.snd).Perm threads ∧ begun.map Prod.snd = shared.pool.started) :
    (Session.adopt { session with shared, threads }).Proceeds host (fun actor => actor.isWorker)
      crew := by
  have after : Follows host adopted later { session with shared, threads } := by
    refine ⟨follows.hosted, follows.reached.trans (runs.mono fun _ _ => trivial), tracks, ?_,
      roster⟩
    intro index
    exact not_busy_of_others (follows.quiet index) (runs.mono fun _ same => same ▸ nofun)
  obtain ⟨taken, adopts, -⟩ := after.adopt
  exact ⟨taken, later, runs.mono fun _ same => by rw [same]; rfl, adopts⟩

/-- A turn is some steps of one worker. -/
theorem Follows.turn (follows : session.Follows host adopted crew)
    (turned : session.turn? = some next) :
    next.Proceeds host (fun actor => actor.isWorker) crew := by
  obtain ⟨taken, adopts, none⟩ := follows.adopt
  obtain ⟨passed, worker, thread, rest, after, threads, resumed, ends⟩ := turn?_go_cases turned
  obtain ⟨running, begun, roster, same, started⟩ := adopts.roster
  rw [threads] at same
  obtain ⟨place, others, chosen, left⟩ := roster.pick same
  have waits : thread.Waits host.config.workers place worker crew :=
    chosen.waits (place, worker, thread) List.mem_cons_self
  have alive (other : Nat) (own : Actor.worker place = .worker other) :
      crew.Present other := by
    cases own
    exact waits.here.present fun _ => Progress.ne_absent_of_mayPanic
  have goes := adopts.resume waits resumed
  rcases ends with ⟨shared, rfl, rfl⟩ | ⟨shared, ready, resumes, rfl, rfl⟩
  · obtain ⟨later, runs, tracks, exited⟩ := goes
    obtain ⟨begun, after, started⟩ := adopts.roster_runs chosen.leave started runs alive tracks
    refine adopts.worker_runs runs tracks ⟨others, begun, after.retire exited, ?_, started⟩
    simpa using left
  · obtain ⟨later, runs, tracks, free, goesOn⟩ := goes
    obtain ⟨begun, after, started⟩ := adopts.roster_runs chosen.leave started runs alive tracks
    have waits : (Thread.waiting shared ready resumes).Waits host.config.workers place worker
        later := ⟨waits.here.of_mayCall adopts.reached runs free, goesOn⟩
    refine adopts.worker_runs runs tracks ⟨_, begun, after.rejoin waits, ?_, started⟩
    have last := (left.cons (worker, .waiting shared ready resumes)).trans
      (List.perm_append_singleton _ _).symm
    simpa using last

theorem Follows.refl {may : Actor → Prop} (follows : session.Follows host adopted crew) :
    session.Proceeds host may crew :=
  ⟨adopted, crew, .refl, follows⟩

/-- When turns have led to a condition, some steps of workers did. -/
theorem Follows.turnsUntil {met : Session → Bool} (follows : session.Follows host adopted crew)
    (comes : session.turnsUntil? met = some next) :
    met next = true ∧ next.Proceeds host (fun actor => actor.isWorker) crew := by
  let proceeds (session : Session) : Prop :=
    session.Proceeds host (fun actor => actor.isWorker) crew
  refine untilAnswer?_of_kept proceeds (fun next => met next = true ∧ proceeds next) ?_ ?_
    follows.refl comes
  · intro session next goesOn found
    unfold turnUnless at found
    split at found
    next holds =>
      cases found
      exact ⟨holds, goesOn⟩
    next => cases found
  · rintro session next ⟨taken, later, runs, follows⟩ goes
    unfold turnUnless at goes
    split at goes
    next => cases goes
    next => exact (follows.turn (Sum.inr.inj goes)).after runs

/-! ## Main contexts -/

theorem Follows.main_proceeds (follows : session.Follows host adopted crew)
    (runs : Runs host.config.workers (· = .main 0) crew later)
    (tracks : later.Tracks adopted shared.pool) (free : ¬ later.Busy (.main 0)) :
    Proceeds host (fun actor => actor.isContext) crew { session with shared } :=
  ⟨adopted, later, runs.mono Actor.isContext_of_main, follows.main_runs runs tracks free⟩

/-- A main context is about to come to its end: from a crew on it and the workers made steps,
and what it does next are steps of its own. -/
def Underway {α : Type} (host : Host) (crew : Crew) (post : Crew → α → Prop)
    (state : Session × Thread Shared α) : Prop :=
  ∃ adopted later, Runs host.config.workers (fun actor => actor.isContext) crew later ∧
    state.1.Follows host adopted later ∧
    state.2.Follows host.config.workers (.main 0) post adopted later

theorem Underway.ends {α : Type} {post : Crew → α → Prop} {state : Session × Thread Shared α}
    {value : α} (underway : Underway host crew post state)
    (free : ∀ later value, post later value → ¬ later.Busy (.main 0))
    (ends : advance state = .inl (value, next)) :
    next.Proceeds host (fun actor => actor.isContext) crew := by
  obtain ⟨session, thread⟩ := state
  obtain ⟨adopted, between, before, follows, goes⟩ := underway
  cases thread with
  | done shared value =>
      cases ends
      obtain ⟨later, runs, tracks, holds⟩ := goes
      exact (follows.main_proceeds runs tracks (free later _ holds)).after before
  | waiting shared ready resumes =>
      unfold advance at ends
      dsimp only at ends
      split at ends <;> cases ends

theorem Underway.advance {α : Type} {post : Crew → α → Prop}
    {state later : Session × Thread Shared α} (underway : Underway host crew post state)
    (advances : Session.advance state = .inr (some later)) : Underway host crew post later := by
  obtain ⟨session, thread⟩ := state
  obtain ⟨adopted, between, before, follows, goes⟩ := underway
  cases thread with
  | done shared value => cases advances
  | waiting shared ready resumes =>
      obtain ⟨middle, runs, tracks, idle, goesOn⟩ := goes
      have waits := follows.main_runs runs tracks idle.1
      have here := before.trans (runs.mono Actor.isContext_of_main)
      unfold Session.advance at advances
      dsimp only at advances
      split at advances
      · cases advances
        exact ⟨adopted, middle, here, waits, goesOn _ middle shared .refl tracks⟩
      · obtain ⟨after, turned, rfl⟩ := Option.map_eq_some_iff.mp (Sum.inr.inj advances)
        obtain ⟨taken, last, others, goes⟩ := waits.turn turned
        have worker (actor : Actor) (works : actor.isWorker) : actor ≠ .main 0 := by
          rintro rfl
          cases works
        -- Only workers took turns, so the main context still waits where it was.
        refine ⟨taken, last, here.trans (others.mono fun _ => Actor.isContext_of_isWorker), goes,
          last, .refl, goes.tracks, ⟨goes.quiet 0, trivial⟩, ?_⟩
        exact fun taken final changed more same =>
          goesOn taken final changed ((others.mono worker).trans more) same

/-- When a main context has come to its end, it and the workers made some steps. -/
theorem Follows.finish {α : Type} {post : Crew → α → Prop} {thread : Thread Shared α} {value : α}
    (follows : session.Follows host adopted crew)
    (goes : thread.Follows host.config.workers (.main 0) post adopted crew)
    (free : ∀ later value, post later value → ¬ later.Busy (.main 0))
    (ends : session.finish? thread = some (value, next)) :
    next.Proceeds host (fun actor => actor.isContext) crew :=
  untilAnswer?_of_kept (Underway host crew post)
    (fun answer => answer.2.Proceeds host (fun actor => actor.isContext) crew)
    (fun _ _ underway found => underway.ends free found)
    (fun _ _ underway advances => underway.advance advances)
    ⟨adopted, crew, .refl, follows, goes⟩ ends

/-- Whatever a main context did, the session went on by steps of contexts. -/
theorem Follows.act {α : Type} {answer : α × Context} (follows : session.Follows host adopted crew)
    {activity : Reentry → Activity α} (composed : Composed host True (fun _ => True) activity)
    {context : Context}
    (acts : session.act? context (activity host.entry) = some (answer, next)) :
    next.Proceeds host (fun actor => actor.isContext) crew := by
  have goes : (activity host.entry).Follows host.config.workers (.main 0) context.id
      (·.MayCall (.main 0)) fun _ => (·.MayCall (.main 0)) :=
    .of_composed (standing_main _ 0) _ composed
  exact follows.finish
    (goes adopted crew context session.shared rfl follows.tracks ⟨follows.quiet 0, trivial⟩)
    (fun _ _ ends => ends.2.1) acts

theorem Follows.contexts (follows : session.Follows host adopted crew) (contexts : Array Context) :
    Follows host adopted crew { session with contexts } :=
  ⟨follows.hosted, follows.reached, follows.tracks, follows.quiet, follows.roster⟩

theorem Proceeds.contexts {may : Actor → Prop} (proceeds : session.Proceeds host may crew)
    (contexts : Array Context) : Proceeds host may crew { session with contexts } := by
  obtain ⟨taken, later, runs, follows⟩ := proceeds
  exact ⟨taken, later, runs, follows.contexts contexts⟩

theorem Follows.create {result : Except Fault Unit} (follows : session.Follows host adopted crew)
    {attempt : Reentry → Attempt Unit}
    (composed : Composed host True (fun _ => True) fun again => (attempt again).run)
    (creates : session.create? (attempt host.entry) = some (result, next)) :
    next.Proceeds host (fun actor => actor.isContext) crew := by
  obtain ⟨⟨⟨outcome, context⟩, middle⟩, acts, rest⟩ := Option.bind_eq_some_iff.mp creates
  have proceeds := follows.act composed acts
  cases outcome with
  | ok value =>
      cases rest
      exact proceeds.contexts _
  | error fault =>
      cases rest
      exact proceeds

theorem composed_openMain {ofGuest : Prop} : Composed host ofGuest (fun _ => True) fun again => do
    let result ← (host.startMain again).run
    Activity.report (.contextClosed mainContext .main)
    return result :=
  Composed.of_startMain.bind fun _ => (Composed.of_report rfl).bind fun _ => .of_pure _

/-- When the run of the guest has returned, whatever became of it, some steps of contexts were
made. -/
theorem Follows.run {result : Except Fault Unit} (follows : session.Follows host adopted crew)
    (runs : session.run? = some (result, next)) :
    next.Proceeds host (fun actor => actor.isContext) crew := by
  have composed : Composed host True (fun _ => True) fun again => ((ExceptT.mk do
      let result ← (host.startMain again).run
      Activity.report (.contextClosed mainContext .main)
      return result : Attempt Unit) >>= fun _ => host.callMain again).run :=
    Composed.run_bind composed_openMain fun _ => Composed.of_callMain
  unfold Session.run? at runs
  rw [follows.hosted] at runs
  exact follows.create composed runs

end Session

end WasmBridge
