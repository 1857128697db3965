import WasmBridge.Proofs.Context.Histories
import WasmBridge.Proofs.Worker.Chronicle
import WasmBridge.Proofs.Worker.Following
import WasmBridge.Proofs.Worker.Start

/-!
# The life of a worker

The thread of a worker records that its guest runs right before it lets it run, and how that
ended right after.  Together with what its caller records the phases of a worker make up one
of four lives, in every order of everybody's steps.
-/

namespace WasmBridge

open Activity

variable {host : Host} {again : Reentry} {others : Shared → Shared → Prop}
  {before after : Moment} {deed : Deed} {deeds : List Deed} {launch : Wire.Launch}
  {worker : UInt32} {depth : Nat}

/-! ## Contexts keep their numbers -/

theorem Composed.of_prepare :
    Composed host True (fun _ => True) fun again => (host.prepare again).run := by
  refine (Composed.of_instantiate true).run_bind fun _ => ?_
  split
  · exact .of_throw _
  · exact .of_throw _
  · exact (Composed.of_bindBridge _).run_lift

theorem Deed.number (does : deed.Does host (host.reentry depth) others before after) :
    after.1.id = before.1.id := by
  obtain ⟨calls, routes⟩ := Host.leads_of_reentry host others depth
  cases deed with
  | prepared result =>
      obtain ⟨events, evolves, -⟩ := Composed.of_prepare.leads calls routes _ _ _ does
      exact evolves.number
  | called name args outcome =>
      obtain ⟨events, evolves, -⟩ := calls _ _ _ _ _ does
      exact evolves.number
  | stored | reported | recorded | gaveBack =>
      obtain rfl := does
      rfl

theorem Happen.number (happen : Happen host (host.reentry depth) others before deeds after) :
    after.1.id = before.1.id := by
  induction happen with
  | nil => rfl
  | cons first _ ih => rw [ih, Deed.number first]

/-! ## The deeds of a thread -/

/-- A context is prepared, with a result. -/
inductive Course.Prepared : Course (Except Fault Unit) where
  | prepared {result : Except Fault Unit} : Prepared [.prepared result] result

theorem Host.bootstrap_eq (host : Host) (again : Reentry) (launch : Wire.Launch) :
    host.bootstrap again launch = host.prepare again >>= fun _ =>
      Host.startSteps again (StartStep.sequence host.module launch) := by
  unfold Host.bootstrap Host.prepare
  rw [bind_assoc]
  congr 1
  funext _
  cases host.plan <;> cases host.bridge? <;> rfl

theorem Activity.Takes.of_bootstrap :
    (host.bootstrap again launch).run.Takes host again others
      (Course.Then Course.Prepared (Start.Starts host.module launch)) := by
  have prepares : (host.prepare again).run.Takes host again others Course.Prepared := by
    intro before result after
    constructor
    · intro ends
      have does : Deed.Does host again others before after (.prepared result) := ends
      exact ⟨_, happen_singleton_iff.mpr does, .prepared⟩
    · rintro ⟨deeds, happen, course⟩
      cases course
      exact happen_singleton_iff.mp happen
  rw [Host.bootstrap_eq, ← StartStep.courses_sequence]
  exact prepares.run_bind (.of_startSteps _)

/-- What the thread of a worker does last: it records whether its guest returned, reports it,
and gives its place back. -/
def Deed.closing (worker : UInt32) : Except Fault Unit → List Deed
  | .ok () => [.recorded .finished, .reported (.workerFinished worker),
      .reported (.contextClosed worker .worker), .gaveBack]
  | .error fault => [.recorded .failed, .reported (.workerFailed worker fault),
      .reported (.contextClosed worker .worker), .gaveBack]

/-- What the thread of a worker does from its first to its last step: in between, it lets its
guest run once or fails before. -/
inductive WorkerDeeds (worker : UInt32) : List Deed → Prop where
  | deeds {deeds : List Deed} {result : Except Fault Unit} (once : EntersOnce deeds result) :
      WorkerDeeds worker (.recorded .bootstrapping :: deeds ++ Deed.closing worker result)

theorem changePool_atOnce (change : Pool → Pool) :
    (Host.changePool change).EndsAtOnce before ()
      (before.1, { before.2 with pool := change before.2.pool }) :=
  rfl

theorem report_atOnce (event : Log.Event) :
    (report event).EndsAtOnce before ()
      (before.1, { before.2 with log := before.2.log.push (before.1.id, event) }) :=
  rfl

/-- The last steps of a thread are done without waiting. -/
theorem happen_of_last {phase : Phase} {event : Log.Event} (own : before.1.id = worker)
    (ends : (do
      Host.changePool (·.setPhase worker phase)
      report event
      report (.contextClosed worker .worker)
      Host.changePool Pool.giveBack : Activity Unit).EndsAmid others before () after) :
    Happen host again others before
      [.recorded phase, .reported event, .reported (.contextClosed worker .worker), .gaveBack]
      after := by
  subst own
  obtain ⟨-, rfl⟩ : () = () ∧ after = _ := by
    rwa [(changePool_atOnce _).endsAmid_bind_iff, (report_atOnce _).endsAmid_bind_iff,
      (report_atOnce _).endsAmid_bind_iff, (changePool_atOnce _).endsAmid_iff] at ends
  exact .cons rfl (.cons rfl (.cons rfl (.cons rfl (.nil _))))

theorem happen_closing {result : Except Fault Unit} (own : before.1.id = worker)
    (ends : (do
      match result with
      | .ok () =>
        Host.changePool (·.setPhase worker .finished)
        report (.workerFinished worker)
      | .error fault =>
        Host.changePool (·.setPhase worker .failed)
        report (.workerFailed worker fault)
      report (.contextClosed worker .worker)
      Host.changePool Pool.giveBack : Activity Unit).EndsAmid others before () after) :
    Happen host again others before (Deed.closing worker result) after := by
  cases result with
  | ok value => exact happen_of_last own ends
  | error fault => exact happen_of_last own ends

/-- However the thread of a worker ends, it ends with such deeds. -/
theorem exists_deeds_of_work (own : before.1.id = worker)
    (ends : (host.work worker launch).EndsAmid others before () after) :
    ∃ deeds, Happen host host.entry others before deeds after ∧ WorkerDeeds worker deeds := by
  obtain ⟨_, begun, recorded, ends⟩ := endsAmid_bind_iff.mp ends
  obtain ⟨-, rfl⟩ := (changePool_atOnce _).endsAmid_iff.mp recorded
  obtain ⟨result, middle, booted, ends⟩ := endsAmid_bind_iff.mp ends
  obtain ⟨deeds, happen, course⟩ := (Takes.of_bootstrap _ _ _).mp booted
  have once : EntersOnce deeds result := by
    refine Start.entersOnce_of_then (fun prepared => ?_) Start.Starts.entersOnce course
    cases prepared
    exact Start.preliminary_singleton rfl rfl
  have closes : Happen host host.entry others middle (Deed.closing worker result) after :=
    happen_closing (happen.number.trans own) ends
  refine ⟨_, .cons ?_ (happen_append_iff.mpr ⟨middle, happen, closes⟩), .deeds once⟩
  rw [← own]
  rfl

/-! ## All workers -/

namespace Chronicle

open Crew

/-- What is recorded of the workers of a crew, and of what the crew can come to. -/
structure Lawful (limit : Option UInt32) (chronicle : Chronicle) : Prop where
  /-- The phases of every worker are the beginning of a life. -/
  lives : ∀ place, ∃ life ∈ lives, chronicle.history place <+: life
  /-- A worker that failed right away was refused a thread. -/
  refused : ∀ place, chronicle.history place = refusedLife →
    ∃ call worker, chronicle.crew.calls[place]? = some call ∧ call.stage = .refused worker
  /-- Until the numbers run out, the phases recorded under a number are those of one worker. -/
  numbered : chronicle.crew.numbers.length < UInt32.size → ∀ place call worker,
    chronicle.crew.calls[place]? = some call → call.worker? = some worker →
    phasesUnder worker chronicle.crew.pool.records = chronicle.history place
  /-- Nothing is recorded of a worker after a final phase. -/
  final : ∀ later, Leads limit chronicle later → ∀ place, ∀ phase ∈ chronicle.history place,
    phase.isFinal → later.history place = chronicle.history place
  /-- Until the numbers run out, a final phase of a number stays its phase. -/
  settled : ∀ later, Leads limit chronicle later → later.crew.numbers.length < UInt32.size →
    ∀ worker phase, chronicle.crew.pool.phase? worker = some phase → phase.isFinal →
    later.crew.pool.phase? worker = some phase
  /-- If no thread was refused, no more workers are in a live phase than have places. -/
  live : (∀ call ∈ chronicle.crew.calls, call.stage.isRefused = false) →
    chronicle.crew.pool.snapshot.countP (·.2.isLive) ≤ chronicle.crew.pool.active

theorem nodup_numbers {limit : Option UInt32} {crew : Crew} (balanced : Balanced limit crew)
    (few : crew.numbers.length < UInt32.size) : crew.numbers.Nodup :=
  balanced.numbers.nodup_iff.mpr (nodup_firstNumbers few)

theorem Leads.lawful {limit : Option UInt32} {chronicle : Chronicle}
    (leads : Leads limit {} chronicle) : chronicle.Lawful limit := by
  have faithful := leads.faithful faithful_empty
  have balanced := balanced_of_reachable leads.reachable
  exact {
    lives := faithful.exists_life
    refused := fun place told => faithful.exists_refused told
    numbered := fun few place call worker found named =>
      faithful.phasesUnder_eq (nodup_numbers balanced few) found named
    final := fun later continues place phase told final => faithful.final continues told final
    settled := fun later continues few worker phase recorded final =>
      faithful.phase?_eq continues
        (nodup_numbers (balanced_of_reachable (Leads.reachable (leads.trans continues))) few)
        recorded final
    live := fun granted => faithful.live_le balanced.active granted }

end Chronicle

/--
In every order of the steps of those who start, run and join workers, as long as no thread
panics, what is recorded of the workers is lawful.  The thread of a worker takes part in it
with steps of its own, and however it ends, it recorded that its guest runs right before it
let it run, and that it returned exactly if it did.
-/
theorem worker_lifecycles {limit : Option UInt32} {chronicle : Chronicle}
    (leads : Chronicle.Leads limit {} chronicle) :
    chronicle.Lawful limit ∧
      ∀ (host : Host) (worker : UInt32) (launch : Wire.Launch),
        (∀ place, (host.work worker launch).Follows host.config.workers (.worker place) worker
          (Crew.At place worker (· = .begun)) fun _ => Crew.At place worker (· = .exited false)) ∧
        ∀ others shared after,
          (host.work worker launch).EndsAmid others (Context.new host worker, shared) () after →
          ∃ deeds, Happen host host.entry others (Context.new host worker, shared) deeds after ∧
            WorkerDeeds worker deeds :=
  ⟨leads.lawful, fun _ _ launch => ⟨fun _ => Follows.of_work launch,
    fun _ _ _ ends => exists_deeds_of_work rfl ends⟩⟩

/-- A worker that was started boots: it is live, and has the one place that there is. -/
theorem worker_lifecycles_booting :
    ∃ chronicle, Chronicle.Leads (some 1) {} chronicle ∧
      chronicle.history 0 = [.idle, .spawning, .bootstrapping] ∧
      chronicle.crew.pool.snapshot.countP (·.2.isLive) ≤ chronicle.crew.pool.active ∧
      chronicle.crew.pool.active = 1 := by
  have spawn {chronicle : Chronicle} {call later : Crew.Call} {pool : Pool}
      (leads : Chronicle.Leads (some 1) {} chronicle)
      (found : chronicle.crew.calls[0]? = some call)
      (spawns : Crew.Spawns (some 1) chronicle.crew.pool call pool later)
      (calm : ∀ call ∈ chronicle.crew.calls.set 0 later, call.thread ≠ .panicking) :
      Chronicle.Leads (some 1) {} _ :=
    leads.tail (.step (.spawn found spawns) calm)
  have free : Crew.MayCall {} (.main 0) := ⟨by simp [Crew.Busy], trivial⟩
  have called : Chronicle.Leads (some 1) {} _ :=
    .single (.step (.call ⟨7, 64, 128⟩ free) (by decide))
  have claimed := spawn called rfl (.claim rfl rfl) (by decide)
  have numbered := spawn claimed rfl (.number rfl) (by decide)
  have idle := spawn numbered rfl (.idle rfl) (by decide)
  have spawning := spawn idle rfl (.spawning rfl) (by decide)
  have begun := spawn spawning rfl (.start rfl) (by decide)
  have booted := begun.tail (.step (@Crew.Step.work _ _ 0 _ _ _ rfl
    (by simp [Crew.Busy, Chronicle.after]) (.boot rfl rfl)) (by decide))
  exact ⟨_, booted, rfl, (worker_lifecycles booted).1.live (by decide), rfl⟩

end WasmBridge
