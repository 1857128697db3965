import WasmBridge.Proofs.Context.Delivery
import WasmBridge.Proofs.Wire.Lengths
import WasmBridge.Proofs.Worker.Following

/-!
# Workers that are granted

A guest asks how many threads it may count on, and it asks for workers.  The first is
answered from the plan of the memory and the configuration, the second also from the count of
the pool.  The answers agree: who counts on so many workers gets as many and no more.
-/

namespace WasmBridge

open Activity

variable {host : Host} {again : Reentry} {before after : Moment} {envelope : Wire.Envelope}
  {payload : Bytes} {outcome : Except Fault UInt32} {limit : Option UInt32} {pool : Pool}

/-! ## Places -/

namespace Pool

/-- One more thread may be claimed. -/
def HasPlace (pool : Pool) (limit : Option UInt32) : Prop :=
  ∀ bound, limit = some bound → pool.active < bound.toNat

/-- The fault of asking for a worker when all are busy. -/
def busyFault (bound : UInt32) : Fault :=
  .threadsUnavailable s!"all {bound} workers are busy"

/-- The pool after a worker was started: one place and one number are taken. -/
def hiring (pool : Pool) (launch : Wire.Launch) : Pool where
  nextId := pool.nextId + 1
  active := pool.active + 1
  records := (pool.nextId, .spawning) :: (pool.nextId, .idle) :: pool.records
  handles := pool.handles ++ [pool.nextId]
  started := pool.started ++ [(pool.nextId, launch)]

theorem spawn_of_hasPlace (place : pool.HasPlace limit) (launch : Wire.Launch) :
    pool.spawn limit launch = .ok (pool.nextId, pool.hiring launch) := by
  have claimed : pool.claim limit = .ok { pool with active := pool.active + 1 } :=
    claim_eq_ok_iff.mpr ⟨rfl, place⟩
  unfold spawn
  rw [claimed]
  rfl

theorem spawn_of_full {bound : UInt32} (full : bound.toNat ≤ pool.active)
    (launch : Wire.Launch) : pool.spawn (some bound) launch = .error (busyFault bound) := by
  have denied : pool.claim (some bound) = .error (busyFault bound) := if_pos full
  unfold spawn
  rw [denied]
  rfl

theorem full_of_not_hasPlace (none : ¬ pool.HasPlace limit) :
    ∃ bound, limit = some bound ∧ bound.toNat ≤ pool.active := by
  simpa [HasPlace] using none

end Pool

/-! ## Requests for a worker -/

namespace Host

/-- The host starts a worker for whoever hands over a launch record. -/
structure Admits (host : Host) (pool : Pool) : Prop where
  threads : host.config.threads = true
  shares : host.plan.isShared = true
  place : pool.HasPlace host.config.workers

/-- The answers to a request for a worker with a payload, and the moments after them. -/
inductive AnswersSpawn (host : Host) (before : Moment) (payload : Bytes) :
    Except Fault UInt32 → Moment → Prop where
  | granted {launch : Wire.Launch} (written : payload = launch.encode)
      (admits : host.Admits before.2.pool) :
      AnswersSpawn host before payload (.ok 0)
        (before.1, { before.2 with pool := before.2.pool.hiring launch })
  | malformed (length : payload.length ≠ 12) :
      AnswersSpawn host before payload
        (.error (.malformedPayload "worker launch record" 12 payload.length)) before
  | disabled (length : payload.length = 12) (threads : host.config.threads = false) :
      AnswersSpawn host before payload
        (.error (.threadsUnavailable "threads are disabled")) before
  | unshared (length : payload.length = 12) (threads : host.config.threads = true)
      (shares : host.plan.isShared = false) :
      AnswersSpawn host before payload
        (.error (.threadsUnavailable "the module does not import shared memory")) before
  | busy {bound : UInt32} (length : payload.length = 12) (threads : host.config.threads = true)
      (shares : host.plan.isShared = true) (limited : host.config.workers = some bound)
      (full : bound.toNat ≤ before.2.pool.active) :
      AnswersSpawn host before payload (.error (Pool.busyFault bound)) before

theorem AnswersSpawn.accepted_iff (answers : host.AnswersSpawn before payload outcome after) :
    outcome = .ok 0 ↔ payload.length = 12 ∧ host.Admits before.2.pool := by
  cases answers with
  | granted written admits => exact iff_of_true rfl ⟨written ▸ Wire.Launch.length_encode _, admits⟩
  | malformed length => exact iff_of_false nofun fun admitted => length admitted.1
  | disabled _ threads =>
      refine iff_of_false nofun fun ⟨_, admits⟩ => ?_
      cases threads.symm.trans admits.threads
  | unshared _ _ shares =>
      refine iff_of_false nofun fun ⟨_, admits⟩ => ?_
      cases shares.symm.trans admits.shares
  | busy _ _ _ limited full =>
      exact iff_of_false nofun fun ⟨_, admits⟩ =>
        Nat.not_lt_of_le full (admits.place _ limited)

theorem spawn_settles (host : Host) (before : Moment) {launch : Wire.Launch}
    (written : payload = launch.encode) :
    Settles (host.spawn launch) before fun result after =>
      host.AnswersSpawn before payload (result.map fun _ => 0) after := by
  have length : payload.length = 12 := written ▸ launch.length_encode
  unfold spawn
  cases threads : host.config.threads with
  | false => exact .of_throw (.disabled length threads)
  | true =>
    cases shares : host.plan.isShared with
    | false => exact .of_throw (.unshared length threads shares)
    | true =>
      have looked : (liftM Activity.shared : Attempt Shared).run.EndsAtOnce before
          (.ok before.2) before := .run_lift rfl
      refine .bind_of_inspection looked (fun shared same => ?_) nofun
      cases same
      by_cases place : before.2.pool.HasPlace host.config.workers
      · rw [Pool.spawn_of_hasPlace place]
        exact ⟨.ok before.2.pool.nextId,
          (before.1, { before.2 with pool := before.2.pool.hiring launch }), rfl,
          .granted written ⟨threads, shares, place⟩⟩
      · obtain ⟨bound, limited, full⟩ := Pool.full_of_not_hasPlace place
        rw [limited, Pool.spawn_of_full full]
        exact .of_throw (.busy length threads shares limited full)

/-- A message for a worker is answered as its payload, the host and the pool have it, or it
has no payload. -/
theorem settles_route_spawnWorker (host : Host) (again : Reentry) (before : Moment)
    (commands : envelope.Commands .spawnWorker) :
    Settles (host.route again envelope) before fun outcome after =>
      (∃ payload, before.payloadOf envelope = .ok payload ∧
        host.AnswersSpawn before payload outcome after) ∨
      ∃ fault, before.payloadOf envelope = .error fault ∧ outcome = .error fault := by
  have copied : (Host.payload envelope).run.EndsAtOnce before (before.payloadOf envelope) before :=
    payload_done
  refine settles_route_of_commands commands <|
    .bind_of_inspection copied (fun payload carried => ?_) fun fault missing =>
      .inr ⟨fault, missing, rfl⟩
  refine .bind_of_inspection (.of_except _) (fun launch decoded => ?_) fun fault refused => ?_
  · refine .bind ((spawn_settles host before (Wire.Launch.decode_eq_ok_iff.mp decoded)).mono
      fun result after answers => ?_)
    cases result with
    | error fault => exact .inl ⟨payload, carried, answers⟩
    | ok worker => exact ⟨_, _, .run_pure 0, .inl ⟨payload, carried, answers⟩⟩
  · obtain ⟨length, rfl⟩ := Wire.Launch.decode_eq_error_iff.mp refused
    exact .inl ⟨payload, carried, .malformed length⟩

theorem exists_answersSpawn (host : Host) (again : Reentry)
    (commands : envelope.Commands .spawnWorker)
    (carried : before.payloadOf envelope = .ok payload) :
    ∃ outcome after, (host.route again envelope).run.EndsAtOnce before outcome after ∧
      host.AnswersSpawn before payload outcome after := by
  obtain ⟨outcome, after, ends, ⟨_, found, answers⟩ | ⟨fault, missing, -⟩⟩ :=
    settles_route_spawnWorker host again before commands
  · cases carried.symm.trans found
    exact ⟨outcome, after, ends, answers⟩
  · cases carried.symm.trans missing

theorem AnswersSpawn.of_route (commands : envelope.Commands .spawnWorker)
    (carried : before.payloadOf envelope = .ok payload)
    (ends : (host.route again envelope).run.EndsAtOnce before outcome after) :
    host.AnswersSpawn before payload outcome after := by
  obtain ⟨result, last, settled, answers⟩ := exists_answersSpawn host again commands carried
  obtain ⟨rfl, rfl⟩ := settled.unique ends
  exact answers

/-- What is accepted was admitted. -/
theorem admits_of_route (commands : envelope.Commands .spawnWorker)
    (ends : (host.route again envelope).run.EndsAtOnce before (.ok 0) after) :
    host.Admits before.2.pool := by
  obtain ⟨result, last, settled, ⟨_, -, answers⟩ | ⟨fault, -, rfl⟩⟩ :=
    settles_route_spawnWorker host again before commands
  · obtain ⟨same, -⟩ := settled.unique ends
    exact (answers.accepted_iff.mp same.symm).2
  · cases (settled.unique ends).1

/-- A message for the number of threads is answered at any moment. -/
theorem route_availableThreads (host : Host) (again : Reentry) (before : Moment)
    (commands : envelope.Commands .availableThreads) :
    (host.route again envelope).run.EndsAtOnce before (.ok host.availableThreads) before := by
  have settles : Settles (host.route again envelope) before fun outcome after =>
      outcome = .ok host.availableThreads ∧ after = before :=
    settles_route_of_commands commands ⟨_, _, .run_pure _, rfl, rfl⟩
  exact settles.endsAtOnce

end Host

/-! ## Workers that were started -/

namespace Crew

variable {crew : Crew} {adopted : List (UInt32 × Wire.Launch)}

/-- Until the numbers run out, the next one was given to nobody. -/
theorem Balanced.nextId_not_mem (balanced : Balanced limit crew)
    (few : crew.numbers.length + 1 < UInt32.size) : crew.pool.nextId ∉ crew.numbers := by
  have different := nodup_firstNumbers few
  rw [firstNumbers_succ, ← balanced.next] at different
  rw [balanced.numbers.mem_iff]
  exact fun member => (List.nodup_append.mp different).2.2 _ member _ (List.mem_singleton_self _) rfl

/-- What the pool of a crew grants: the threads it counts are those that somebody holds, its
next number is new, and a worker that is started is one more call, with one more number. -/
structure Grants (limit : Option UInt32) (crew : Crew) (adopted : List (UInt32 × Wire.Launch))
    (pool : Pool) : Prop where
  counted : pool.active = crew.calls.countP Call.holdsPlace
  fresh : crew.numbers.length + 1 < UInt32.size → pool.nextId ∉ crew.numbers
  started : ∀ (caller : Actor) (launch : Wire.Launch), crew.MayCall caller →
    pool.HasPlace limit → ∃ later : Crew, later.Reachable limit ∧
      later.Tracks adopted (pool.hiring launch) ∧
      later.calls = crew.calls ++
        [{ caller, launch, stage := .started pool.nextId, thread := .begun }] ∧
      later.numbers = crew.numbers ++ [pool.nextId]

theorem grants_of_reachable (reached : crew.Reachable limit)
    (tracks : crew.Tracks adopted pool) : crew.Grants limit adopted pool := by
  have balanced := balanced_of_reachable reached
  have agrees : crew.pool.active = pool.active ∧ crew.pool.nextId = pool.nextId := by
    rw [show crew.pool = _ from tracks]
    exact ⟨rfl, rfl⟩
  refine ⟨agrees.1 ▸ balanced.active, fun few => agrees.2 ▸ balanced.nextId_not_mem few, ?_⟩
  intro caller launch free place
  have runs := runs_of_spawn free (tracks.spawn (Pool.spawn_of_hasPlace place launch))
  exact ⟨_, reached.trans (runs.mono fun _ _ => trivial), rfl, rfl,
    List.filterMap_append.trans rfl⟩

end Crew

/-! ## Threads that may be counted on -/

/-- If there is a limit, it lets a worker run. -/
theorem Configuration.workers_of_validate {config : Configuration} {bound : UInt32}
    (valid : config.validate = .ok ()) (limited : config.workers = some bound) :
    0 < bound.toNat := by
  refine Nat.pos_of_ne_zero fun zero => ?_
  have none : config.workers = some 0 := limited.trans (congrArg some (UInt32.toNat_inj.mp zero))
  unfold validate checkInitialPages checkMaximumPages checkWorkers at valid
  rw [if_pos none] at valid
  split at valid
  · cases valid
  · split at valid <;> cases valid

namespace Host

theorem one_le_availableThreads (valid : host.config.validate = .ok ())
    (machine : host.machineThreads ≠ 0) : 1 ≤ host.availableThreads := by
  unfold availableThreads
  split
  · rw [UInt32.le_iff_toNat_le]
    cases limited : host.config.workers with
    | none => exact Nat.pos_of_ne_zero fun zero => machine (UInt32.toNat_inj.mp zero)
    | some bound => exact Configuration.workers_of_validate valid limited
  · exact UInt32.le_refl 1

theorem availableThreads_of_limited {bound : UInt32} (threads : host.config.threads = true)
    (shares : host.plan.isShared = true) (limited : host.config.workers = some bound) :
    host.availableThreads = bound := by
  simp [availableThreads, threads, shares, limited]

/-- No message for a worker is ever accepted, whatever it carries and whatever those who work
on the pool of the host came to. -/
def NeverSpawns (host : Host) : Prop :=
  ∀ (again : Reentry) (before after : Moment) (envelope : Wire.Envelope)
    (adopted : List (UInt32 × Wire.Launch)) (crew : Crew),
    crew.Reachable host.config.workers → crew.Tracks adopted before.2.pool →
    envelope.Commands .spawnWorker →
    ¬ (host.route again envelope).run.EndsAtOnce before (.ok 0) after

end Host

/-- A context with a launch record at the start of the memory that all contexts share. -/
def Moment.seeking (host : Host) (launch : Wire.Launch) : Moment :=
  ({ Context.new host mainContext with home := .shared, bridge := some ⟨true, false⟩ },
    { memory := .page 1 launch.encode })

theorem Moment.payloadOf_seeking (host : Host) (launch : Wire.Launch) :
    (Moment.seeking host launch).payloadOf ⟨1, 6, 0, 12⟩ = .ok launch.encode :=
  Moment.payloadOf_of_page rfl rfl rfl launch.length_encode.symm (by rw [launch.length_encode]; decide)

namespace Host

/-- A host of a valid configuration may always start a worker, unless it never does. -/
theorem neverSpawns_iff (valid : host.config.validate = .ok ()) :
    host.NeverSpawns ↔ (host.config.threads && host.plan.isShared) = false := by
  constructor
  · refine fun never => Bool.eq_false_iff.mpr fun able => ?_
    obtain ⟨threads, shares⟩ := Bool.and_eq_true_iff.mp able
    have place : Pool.HasPlace {} host.config.workers :=
      fun bound limited => Configuration.workers_of_validate valid limited
    have commands : Wire.Envelope.Commands ⟨1, 6, 0, 12⟩ .spawnWorker := ⟨rfl, rfl⟩
    obtain ⟨outcome, after, ends, answers⟩ :=
      exists_answersSpawn host host.entry commands (Moment.payloadOf_seeking host ⟨0, 0, 0⟩)
    cases answers.accepted_iff.mpr ⟨Wire.Launch.length_encode _, threads, shares, place⟩
    exact never host.entry (Moment.seeking host ⟨0, 0, 0⟩) after _ [] {} .refl rfl commands ends
  · intro unable again before after envelope adopted crew reached tracks commands ends
    have admits := admits_of_route commands ends
    rw [admits.threads, admits.shares] at unable
    cases unable

theorem availableThreads_of_neverSpawns (valid : host.config.validate = .ok ())
    (never : host.NeverSpawns) : host.availableThreads = 1 := by
  rw [availableThreads, (neverSpawns_iff valid).mp never]
  rfl

/-! ## Workers one after the other -/

/-- Messages for workers, each with a payload of the right length, are served one after the
other.  Between two of them no thread is claimed or given back. -/
inductive Hires (host : Host) (again : Reentry) :
    Moment → List (Except Fault UInt32) → Moment → Prop where
  | nil (before : Moment) : Hires host again before [] before
  | cons {before middle next after : Moment} {envelope : Wire.Envelope} {payload : Bytes}
      {outcome : Except Fault UInt32} {outcomes : List (Except Fault UInt32)}
      (commands : envelope.Commands .spawnWorker)
      (carried : before.payloadOf envelope = .ok payload) (length : payload.length = 12)
      (ends : (host.route again envelope).run.EndsAtOnce before outcome middle)
      (stays : next.2.pool.active = middle.2.pool.active)
      (rest : Hires host again next outcomes after) :
      Hires host again before (outcome :: outcomes) after

/-- There are such messages, as many as one likes. -/
theorem exists_hires (again : Reentry) (commands : envelope.Commands .spawnWorker)
    (carried : before.payloadOf envelope = .ok payload) (length : payload.length = 12)
    (count : Nat) :
    ∃ outcomes after, outcomes.length = count ∧ host.Hires again before outcomes after := by
  induction count generalizing before with
  | zero => exact ⟨[], before, rfl, .nil before⟩
  | succ count ih =>
      obtain ⟨outcome, middle, ends, answers⟩ := exists_answersSpawn host again commands carried
      have still : middle.payloadOf envelope = .ok payload := by
        rw [← carried]
        cases answers <;> rfl
      obtain ⟨outcomes, after, counted, rest⟩ := ih still
      exact ⟨outcome :: outcomes, after, congrArg (· + 1) counted,
        .cons commands carried length ends rfl rest⟩

section Limited

variable {bound : UInt32} (threads : host.config.threads = true)
  (shares : host.plan.isShared = true) (limited : host.config.workers = some bound)
include threads shares limited

/-- A launch record gets a worker as long as fewer than the limit are busy. -/
theorem AnswersSpawn.of_limited (answers : host.AnswersSpawn before payload outcome after)
    (length : payload.length = 12) :
    (before.2.pool.active < bound.toNat ∧ outcome = .ok 0 ∧
      after.2.pool.active = before.2.pool.active + 1) ∨
    (bound.toNat ≤ before.2.pool.active ∧ outcome = .error (Pool.busyFault bound) ∧
      after = before) := by
  cases answers with
  | granted written admits => exact .inl ⟨admits.place bound limited, rfl, rfl⟩
  | malformed other => exact absurd length other
  | disabled _ disabled => cases threads.symm.trans disabled
  | unshared _ _ unshared => cases shares.symm.trans unshared
  | busy _ _ _ same full =>
      cases limited.symm.trans same
      exact .inr ⟨full, rfl, rfl⟩

/-- The first so many are granted and the others are refused. -/
theorem Hires.outcome_eq {outcomes : List (Except Fault UInt32)}
    (hires : host.Hires again before outcomes after) {place : Nat}
    (found : outcomes[place]? = some outcome) :
    outcome = if before.2.pool.active + place < bound.toNat then .ok 0
      else .error (Pool.busyFault bound) := by
  induction hires generalizing place with
  | nil before => cases found
  | @cons before middle next after envelope payload first outcomes commands carried length ends
      stays rest ih =>
      have answers := AnswersSpawn.of_route commands carried ends
      rcases answers.of_limited threads shares limited length with
        ⟨free, rfl, taken⟩ | ⟨full, rfl, rfl⟩
      · rw [taken] at stays
        cases place with
        | zero =>
            cases found
            exact (if_pos free).symm
        | succ place =>
            rw [ih found, stays, Nat.add_assoc, Nat.add_comm 1]
      · cases place with
        | zero =>
            cases found
            exact (if_neg (Nat.not_lt_of_le full)).symm
        | succ place =>
            rw [ih found, stays, if_neg (by omega), if_neg (by omega)]

theorem Hires.active_eq {outcomes : List (Except Fault UInt32)}
    (hires : host.Hires again before outcomes after)
    (within : before.2.pool.active ≤ bound.toNat) :
    after.2.pool.active = min (before.2.pool.active + outcomes.length) bound.toNat := by
  induction hires with
  | nil before => exact (Nat.min_eq_left within).symm
  | cons commands carried length ends stays rest ih =>
      have answers := AnswersSpawn.of_route commands carried ends
      rcases answers.of_limited threads shares limited length with
        ⟨free, rfl, taken⟩ | ⟨full, rfl, rfl⟩
      · rw [ih (by omega), stays, taken, List.length_cons]
        omega
      · rw [ih (by omega), stays, List.length_cons]
        omega

end Limited

/-- What a host tells of its threads is what it grants. -/
structure GrantsAsTold (host : Host) : Prop where
  answers : ∀ (again : Reentry) (before : Moment) (envelope : Wire.Envelope) (payload : Bytes),
    envelope.Commands .spawnWorker → before.payloadOf envelope = .ok payload →
    ∃ outcome after, (host.route again envelope).run.EndsAtOnce before outcome after ∧
      host.AnswersSpawn before payload outcome after ∧
      (outcome = .ok 0 ↔ payload.length = 12 ∧ host.Admits before.2.pool)
  grants : ∀ (adopted : List (UInt32 × Wire.Launch)) (crew : Crew) (pool : Pool),
    crew.Reachable host.config.workers → crew.Tracks adopted pool →
    crew.Grants host.config.workers adopted pool
  tells : ∀ (again : Reentry) (before : Moment) (envelope : Wire.Envelope),
    envelope.Commands .availableThreads →
    (host.route again envelope).run.EndsAtOnce before (.ok host.availableThreads) before
  atLeast : 1 ≤ host.availableThreads
  never : host.NeverSpawns ↔ (host.config.threads && host.plan.isShared) = false
  alone : host.NeverSpawns → host.availableThreads = 1
  limited : ∀ bound : UInt32, host.config.threads = true → host.plan.isShared = true →
    host.config.workers = some bound → host.availableThreads = bound ∧
      ∀ (again : Reentry) (before : Moment), before.2.pool.active = 0 →
        (∀ (outcomes : List (Except Fault UInt32)) (after : Moment),
          host.Hires again before outcomes after →
          (∀ (place : Nat) (outcome : Except Fault UInt32), outcomes[place]? = some outcome →
            outcome = if place < bound.toNat then .ok 0 else .error (Pool.busyFault bound)) ∧
          after.2.pool.active = min outcomes.length bound.toNat) ∧
        ∀ (envelope : Wire.Envelope) (payload : Bytes), envelope.Commands .spawnWorker →
          before.payloadOf envelope = .ok payload → payload.length = 12 → ∀ count : Nat,
          ∃ outcomes after, outcomes.length = count ∧ host.Hires again before outcomes after

end Host

/--
A message for a worker is accepted when its payload is a launch record, threads are enabled,
the memory is shared and fewer workers are busy than the limit says; then one place and the
next number are taken, and a worker with the words of the record is started.  Else nothing is
changed.  The number of threads that the guest is told is at least 1, it is 1 if no message for
a worker could ever be accepted, and it is the limit where there is one: from a pool in which
nobody is busy that many messages are accepted and the next is refused.
-/
theorem workers_granted_as_told (host : Host) (valid : host.config.validate = .ok ())
    (machine : host.machineThreads ≠ 0) : host.GrantsAsTold where
  answers again before envelope payload commands carried := by
    obtain ⟨outcome, after, ends, answers⟩ :=
      host.exists_answersSpawn again commands carried
    exact ⟨outcome, after, ends, answers, answers.accepted_iff⟩
  grants _ _ _ := Crew.grants_of_reachable
  tells again before _ := host.route_availableThreads again before
  atLeast := Host.one_le_availableThreads valid machine
  never := Host.neverSpawns_iff valid
  alone := Host.availableThreads_of_neverSpawns valid
  limited bound threads shares limited := by
    refine ⟨Host.availableThreads_of_limited threads shares limited, fun again before idle =>
      ⟨fun outcomes after hires => ⟨fun place outcome found => ?_, ?_⟩,
        fun envelope payload => Host.exists_hires again⟩⟩
    · have granted := hires.outcome_eq threads shares limited found
      rwa [idle, Nat.zero_add] at granted
    · have busy := hires.active_eq threads shares limited (idle ▸ Nat.zero_le _)
      rwa [idle, Nat.zero_add] at busy

/-- A host that lets two workers run at a time. -/
def Host.pairing : Host :=
  { Host.ofModule "pairing" {} (.shared ⟨"env", "memory", 1, 1⟩) with
    config := { workers := some 2 } }

/-- Two threads are told of, and the third worker is refused. -/
theorem workers_granted_as_told_pairing :
    Host.pairing.availableThreads = 2 ∧
      ∃ after, Host.pairing.Hires Host.trapping (Moment.seeking Host.pairing ⟨7, 64, 128⟩)
        [.ok 0, .ok 0, .error (.threadsUnavailable "all 2 workers are busy")] after ∧
        after.2.pool.active = 2 := by
  have told := workers_granted_as_told Host.pairing rfl (by decide)
  obtain ⟨two, idle⟩ := told.limited 2 rfl rfl rfl
  obtain ⟨known, more⟩ := idle Host.trapping (Moment.seeking Host.pairing ⟨7, 64, 128⟩) rfl
  obtain ⟨outcomes, after, three, hires⟩ := more ⟨1, 6, 0, 12⟩ _ ⟨rfl, rfl⟩
    (Moment.payloadOf_seeking Host.pairing ⟨7, 64, 128⟩) (Wire.Launch.length_encode _) 3
  obtain ⟨granted, busy⟩ := known outcomes after hires
  match outcomes, three with
  | [first, second, third], _ =>
      cases granted 0 first rfl
      cases granted 1 second rfl
      cases granted 2 third rfl
      exact ⟨two, after, hires, busy⟩

end WasmBridge
