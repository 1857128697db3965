import Mathlib.Algebra.BigOperators.Group.List.Basic
import Mathlib.Algebra.GroupWithZero.Nat
import WasmBridge.Proofs.Worker.Places

/-!
# Handles of threads

The handle of a thread is with whoever started it, then in the pool, then in the batch of
one who joins workers, until the thread is joined.  No handle is lost and none is there
twice.
-/

namespace WasmBridge

namespace Crew

variable {limit : Option UInt32} {crew later : Crew} {actor : Actor} {pool after : Pool}
  {call altered : Call} {place : Nat}

/-! ## Where a handle is -/

/-- Whether the pool got the handle of the thread. -/
def Stage.isStarted : Stage → Bool
  | .started _ => true
  | _ => false

/-- The number of the worker that was started at a place. -/
def workerAt (crew : Crew) (place : Nat) : Option UInt32 :=
  crew.calls[place]?.bind Call.worker?

/-- The places of the threads that somebody took and did not join yet. -/
def batches (crew : Crew) : List Nat :=
  crew.joiners.flatMap Joiner.batch

/-- How many handles one took who joins workers. -/
def Joiner.taken (joiner : Joiner) : Nat :=
  joiner.joined + joiner.batch.length

/-- How many handles were taken. -/
def taken (crew : Crew) : Nat :=
  (crew.joiners.map Joiner.taken).sum

/-- Where the handle of a thread is that was started by the call at a place. -/
def Held (crew : Crew) (place : Nat) (call : Call) : Prop :=
  (∃ worker, call.stage = .keeping worker) ∨ place ∈ crew.kept ∨ place ∈ crew.batches ∨
    call.thread = .exited false

/-- Every handle is somewhere. -/
structure Accounted (crew : Crew) : Prop where
  coherent : crew.Coherent
  /-- The pool has the handles of the threads at the kept places. -/
  named : List.Forall₂ (fun place worker => crew.workerAt place = some worker) crew.kept
    crew.pool.handles
  held : ∀ place call, crew.calls[place]? = some call → call.thread ≠ .absent →
    crew.Held place call
  /-- Every handle is there once. -/
  counted : crew.calls.countP (·.stage.isStarted) = crew.kept.length + crew.taken
  /-- Who leaves has joined what it took. -/
  emptied : ∀ joiner ∈ crew.joiners, joiner.next = .leaving ∨ joiner.next = .left →
    joiner.batch = []

/-! ## Numbers stay -/

theorem Step.workerAt (step : Step limit crew actor later) {place : Nat} {worker : UInt32}
    (named : crew.workerAt place = some worker) : later.workerAt place = some worker := by
  refine Option.bind_eq_some_iff.mpr (step.call_of_alters ?_ (Option.bind_eq_some_iff.mp named))
  intro call altered pool alters numbered
  rcases alters.worker? with ⟨kept, -⟩ | ⟨unnumbered, -⟩
  · rw [kept, numbered]
  · rw [numbered] at unnumbered
    cases unnumbered

theorem Runs.workerAt {may : Actor → Prop} (runs : Runs limit may crew later) {place : Nat}
    {worker : UInt32} (named : crew.workerAt place = some worker) :
    later.workerAt place = some worker :=
  runs.preserve (fun crew => crew.workerAt place = some worker) named
    fun _ _ _ _ step => step.workerAt

theorem Spawns.handles (spawns : Spawns limit pool call after altered) :
    after.handles = pool.handles := by
  cases spawns with
  | claim stage granted =>
      obtain ⟨rfl, -⟩ := Pool.claim_eq_ok_iff.mp granted
      rfl
  | _ => rfl

theorem Works.handles (works : Works pool call after altered) : after.handles = pool.handles := by
  cases works <;> rfl

theorem Step.named (step : Step limit crew actor later)
    (named : List.Forall₂ (fun place worker => crew.workerAt place = some worker) crew.kept
      crew.pool.handles) :
    List.Forall₂ (fun place worker => later.workerAt place = some worker) later.kept
      later.pool.handles := by
  have kept := named.imp fun place worker same => step.workerAt same
  have stays := @Step.workerAt _ _ _ _ step
  cases step with
  | call launch free => exact kept
  | spawn found spawns => rwa [spawns.handles]
  | keep found stage =>
      refine List.rel_append kept (.cons ?_ .nil)
      refine stays (Option.bind_eq_some_iff.mpr ⟨_, found, ?_⟩)
      simp [Call.worker?, stage]
  | work found free works => rwa [works.handles]
  | join => exact kept
  | take => exact .nil
  | takeNone => exact .nil
  | collect => exact kept
  | notice => exact kept
  | record => exact kept
  | leave => exact kept

/-! ## Batches -/

theorem mem_batches_of_after {joiners : List Joiner} {index place : Nat} {joiner after : Joiner}
    (found : joiners[index]? = some joiner) (member : place ∈ after.batch) :
    place ∈ (joiners.set index after).flatMap Joiner.batch :=
  List.mem_flatMap.mpr
    ⟨after, List.mem_set (List.getElem?_eq_some_iff.mp found).1 after, member⟩

theorem mem_batches_or {joiners : List Joiner} {index place : Nat} {joiner : Joiner}
    (after : Joiner) (found : joiners[index]? = some joiner)
    (member : place ∈ joiners.flatMap Joiner.batch) :
    place ∈ joiner.batch ∨ place ∈ (joiners.set index after).flatMap Joiner.batch := by
  obtain ⟨old, new⟩ := perm_set after found
  have among := (old.flatMap_right Joiner.batch).mem_iff.mp member
  rw [List.flatMap_cons, List.mem_append] at among
  rcases among with own | other
  · exact .inl own
  · exact .inr ((new.flatMap_right _).mem_iff.mpr (List.mem_append_right _ other))

theorem mem_batches_set {joiners : List Joiner} {index place : Nat} {joiner after : Joiner}
    (found : joiners[index]? = some joiner) (own : place ∈ joiner.batch → place ∈ after.batch)
    (member : place ∈ joiners.flatMap Joiner.batch) :
    place ∈ (joiners.set index after).flatMap Joiner.batch := by
  rcases mem_batches_or after found member with here | other
  · exact mem_batches_of_after found (own here)
  · exact other

theorem Held.imp (held : crew.Held place call)
    (kept : place ∈ crew.kept → place ∈ later.kept ∨ place ∈ later.batches)
    (batch : place ∈ crew.batches → place ∈ later.batches ∨ call.thread = .exited false) :
    later.Held place call := by
  rcases held with keeping | there | there | exited
  · exact .inl keeping
  · rcases kept there with still | taken
    · exact .inr (.inl still)
    · exact .inr (.inr (.inl taken))
  · exact .inr (.inr (batch there))
  · exact .inr (.inr (.inr exited))

theorem Spawns.isBusy (spawns : Spawns limit pool call after altered) : call.stage.isBusy := by
  cases spawns <;> simp_all [Stage.isBusy]

theorem Spawns.isStarted (spawns : Spawns limit pool call after altered) :
    altered.stage.isStarted = call.stage.isStarted := by
  cases spawns <;> simp_all [Stage.isStarted]

theorem Spawns.absent (spawns : Spawns limit pool call after altered) (coherent : call.Coherent) :
    call.thread = .absent := by
  by_contra there
  have has := coherent.mp there
  cases spawns <;> simp_all [Stage.hasThread]

/-- A thread that is there after a step of its caller has just begun. -/
theorem Spawns.keeping (spawns : Spawns limit pool call after altered) (coherent : call.Coherent)
    (present : altered.thread ≠ .absent) : ∃ worker, altered.stage = .keeping worker := by
  have absent := spawns.absent coherent
  cases spawns with
  | start stage => exact ⟨_, rfl⟩
  | _ => exact absurd absent present

theorem Accounted.kept_eq_nil (accounted : crew.Accounted) (none : crew.pool.handles = []) :
    crew.kept = [] := by
  have named := accounted.named
  rw [none] at named
  exact List.forall₂_nil_right_iff.mp named

theorem Step.held (step : Step limit crew actor later)
    (accounted : crew.Accounted) {place : Nat} {call : Call}
    (there : later.calls[place]? = some call) (present : call.thread ≠ .absent) :
    later.Held place call := by
  have held := accounted.held
  cases step with
  | call launch free =>
      rcases getElem?_append_cases there with ⟨-, rfl⟩ | old
      · exact absurd rfl present
      · exact held place call old present
  | spawn found spawns =>
      rcases getElem?_set_cases there with ⟨rfl, rfl⟩ | ⟨-, old⟩
      · exact .inl (spawns.keeping (accounted.coherent _ (List.mem_of_getElem? found)) present)
      · exact held place call old present
  | keep found stage =>
      rcases getElem?_set_cases there with ⟨rfl, rfl⟩ | ⟨-, old⟩
      · exact .inr (.inl (List.mem_append_right _ (List.mem_singleton_self _)))
      · exact (held place call old present).imp (fun kept => .inl (List.mem_append_left _ kept)) .inl
  | work found free works =>
      rcases getElem?_set_cases there with ⟨rfl, rfl⟩ | ⟨-, old⟩
      · obtain ⟨before, -, stage, -⟩ := works.frame
        rcases held place _ found before with keeping | kept | batch | exited
        · exact .inl (by rwa [stage])
        · exact .inr (.inl kept)
        · exact .inr (.inr (.inl batch))
        · cases works <;> simp_all [Progress.isInGuest, Progress.mayPanic]
      · exact held place call old present
  | join =>
      refine (held place call there present).imp .inl fun batch => .inl ?_
      exact List.mem_flatMap.mpr (by simpa [batches] using batch)
  | take found next empty some =>
      refine (held place call there present).imp ?_ ?_
      · exact fun kept => .inr (mem_batches_of_after found kept)
      · refine fun batch => .inl (mem_batches_set found (fun own => ?_) batch)
        rw [empty] at own
        cases own
  | takeNone found next empty none =>
      refine (held place call there present).imp (fun kept => ?_) fun batch =>
        .inl (mem_batches_set found id batch)
      rw [accounted.kept_eq_nil none] at kept
      cases kept
  | collect found next batch met thread =>
      refine (held place call there present).imp .inl fun among => ?_
      rcases mem_batches_or _ found among with own | other
      · rw [batch] at own
        rcases List.mem_cons.mp own with rfl | rest
        · rw [met] at there
          cases there
          exact .inr thread
        · exact .inl (mem_batches_of_after found rest)
      · exact .inl other
  | notice found =>
      exact (held place call there present).imp .inl fun batch =>
        .inl (mem_batches_set found id batch)
  | record found next batch met named thread =>
      rcases getElem?_set_cases there with ⟨rfl, rfl⟩ | ⟨different, old⟩
      · exact .inr (.inr (.inr rfl))
      · refine (held place call old present).imp .inl fun among =>
          .inl (mem_batches_set found (fun own => ?_) among)
        rw [batch] at own
        exact (List.mem_cons.mp own).resolve_left different
  | leave found =>
      exact (held place call there present).imp .inl fun batch =>
        .inl (mem_batches_set found id batch)

/-! ## How many there are -/

theorem Works.isStarted (works : Works pool call after altered) :
    altered.stage.isStarted = call.stage.isStarted := by
  rw [works.frame.2.2.1]

theorem countP_isStarted_set {calls : List Call} (altered : Call)
    (found : calls[place]? = some call) (same : altered.stage.isStarted = call.stage.isStarted) :
    (calls.set place altered).countP (·.stage.isStarted) = calls.countP (·.stage.isStarted) := by
  obtain ⟨old, new⟩ := perm_set altered found
  rw [old.countP_eq, new.countP_eq, List.countP_cons, List.countP_cons, same]

theorem taken_set {joiners : List Joiner} {index : Nat} {joiner : Joiner} (after : Joiner)
    (found : joiners[index]? = some joiner) :
    ((joiners.set index after).map Joiner.taken).sum + joiner.taken =
      (joiners.map Joiner.taken).sum + after.taken := by
  obtain ⟨old, new⟩ := perm_set after found
  rw [(old.map Joiner.taken).sum_eq, (new.map Joiner.taken).sum_eq, List.map_cons, List.map_cons,
    List.sum_cons, List.sum_cons]
  omega

theorem Step.counted (step : Step limit crew actor later)
    (accounted : crew.Accounted) :
    later.calls.countP (·.stage.isStarted) = later.kept.length + later.taken := by
  have counted := accounted.counted
  unfold taken at *
  cases step with
  | call launch free =>
      rw [List.countP_append, counted]
      rfl
  | spawn found spawns => rwa [countP_isStarted_set _ found spawns.isStarted]
  | @keep place call worker found stage =>
      obtain ⟨old, new⟩ := perm_set { call with stage := .started worker } found
      rw [old.countP_eq, List.countP_cons] at counted
      rw [new.countP_eq, List.countP_cons, List.length_append]
      simp [stage, Stage.isStarted] at counted ⊢
      omega
  | work found free works => rwa [countP_isStarted_set _ found works.isStarted]
  | join => simpa [Joiner.taken] using counted
  | @take index joiner found next empty some =>
      have sum := taken_set { joiner with batch := crew.kept } found
      simp [Joiner.taken, empty] at sum ⊢
      omega
  | @takeNone index joiner found next empty none =>
      have sum := taken_set { joiner with next := .leaving } found
      rw [accounted.kept_eq_nil none] at counted
      simp [Joiner.taken] at sum counted ⊢
      omega
  | @collect index place rest joiner call found next batch met thread =>
      have sum := taken_set { joiner with joined := joiner.joined + 1, batch := rest } found
      simp [Joiner.taken, batch] at sum ⊢
      omega
  | @notice index place rest joiner call found =>
      have sum := taken_set { joiner with next := .recording } found
      simp [Joiner.taken] at sum ⊢
      omega
  | @record index place rest joiner call worker found next batch met named thread =>
      have sum := taken_set
        { joiner with joined := joiner.joined + 1, batch := rest, next := .collecting } found
      rw [countP_isStarted_set { call with thread := .exited false } met rfl]
      simp [Joiner.taken, batch] at sum ⊢
      omega
  | @leave index joiner found next =>
      have sum := taken_set { joiner with next := .left } found
      simp [Joiner.taken] at sum ⊢
      omega

/-- A joiner is replaced by one that does not leave, or has nothing left to join. -/
theorem emptied_set {joiners : List Joiner} {index : Nat} {after : Joiner}
    (emptied : ∀ joiner ∈ joiners, joiner.next = .leaving ∨ joiner.next = .left →
      joiner.batch = [])
    (empty : after.next = .leaving ∨ after.next = .left → after.batch = []) :
    ∀ joiner ∈ joiners.set index after, joiner.next = .leaving ∨ joiner.next = .left →
      joiner.batch = [] := by
  intro joiner among leaves
  rcases List.mem_or_eq_of_mem_set among with old | rfl
  · exact emptied joiner old leaves
  · exact empty leaves

theorem Step.emptied (step : Step limit crew actor later)
    (emptied : ∀ joiner ∈ crew.joiners, joiner.next = .leaving ∨ joiner.next = .left →
      joiner.batch = []) :
    ∀ joiner ∈ later.joiners, joiner.next = .leaving ∨ joiner.next = .left →
      joiner.batch = [] := by
  cases step with
  | call launch free => exact emptied
  | spawn found spawns => exact emptied
  | keep found stage => exact emptied
  | work found free works => exact emptied
  | join =>
      intro joiner among leaves
      rcases List.mem_append.mp among with old | new
      · exact emptied joiner old leaves
      · rw [List.mem_singleton.mp new]
  | take found next empty some => exact emptied_set emptied (by simp [next])
  | takeNone found next empty none => exact emptied_set emptied fun _ => empty
  | collect found next batch met thread => exact emptied_set emptied (by simp [next])
  | notice found next batch met thread => exact emptied_set emptied (by simp)
  | record found next batch met named thread => exact emptied_set emptied (by simp)
  | leave found next =>
      have empty := emptied _ (List.mem_of_getElem? found) (.inl next)
      exact emptied_set emptied fun _ => empty

theorem Accounted.step (accounted : crew.Accounted) (step : Step limit crew actor later) :
    later.Accounted where
  coherent := step.coherent accounted.coherent
  named := step.named accounted.named
  held _ _ there present := step.held accounted there present
  counted := step.counted accounted
  emptied := step.emptied accounted.emptied

theorem accounted_empty : Accounted {} where
  coherent := coherent_empty
  named := .nil
  held _ _ found := by simp at found
  counted := rfl
  emptied _ member := absurd member List.not_mem_nil

/-- In every order of the steps every handle is somewhere, and no handle is there twice. -/
theorem accounted_of_reachable (reached : Reachable limit crew) : crew.Accounted :=
  reached.preserve Accounted accounted_empty fun _ _ _ _ step accounted => accounted.step step

end Crew

end WasmBridge
