import Mathlib.Data.List.Nodup
import WasmBridge.Proofs.Worker.Following
import WasmBridge.Proofs.Worker.Joining

/-!
# Who is at which place

The thread of a worker is at the place where it was started.  It waits there until it is
resumed, and then makes steps of that worker; what one does leaves everybody else in their
places, and adds those whom it starts.
-/

namespace WasmBridge

namespace Crew

variable {limit : Option UInt32} {crew later : Crew} {actor : Actor} {pool after : Pool}
  {call altered : Call} {place : Nat}

/-! ## Threads that begin -/

/-- A thread was started at a place. -/
def Present (crew : Crew) (place : Nat) : Prop :=
  ∃ call, crew.calls[place]? = some call ∧ call.thread ≠ .absent

/-- The thread that was started at a place exited, and no panic of it is to be recorded. -/
def Exited (crew : Crew) (place : Nat) : Prop :=
  ∃ call, crew.calls[place]? = some call ∧ call.thread = .exited false

theorem At.present {worker : UInt32} {far : Progress → Prop} (here : crew.At place worker far)
    (begun : ∀ progress, far progress → progress ≠ .absent) : crew.Present place := by
  obtain ⟨call, found, -, thread⟩ := here.call
  exact ⟨call, found, begun _ thread⟩

theorem Progress.ne_absent_of_mayPanic {progress : Progress} (alive : progress.mayPanic) :
    progress ≠ .absent := by
  rintro rfl
  cases alive

theorem Alters.present (alters : Alters limit pool call after altered)
    (present : call.thread ≠ .absent) : altered.thread ≠ .absent := by
  cases alters with
  | spawns spawns => cases spawns <;> first | exact present | nofun
  | keeps stage => exact present
  | works works => exact works.frame.2.1
  | records named thread => nofun

theorem Step.present (step : Step limit crew actor later) (present : crew.Present place) :
    later.Present place :=
  step.call_of_alters (fun alters => alters.present) present

theorem Runs.present {may : Actor → Prop} (runs : Runs limit may crew later)
    (present : crew.Present place) : later.Present place :=
  runs.preserve (fun crew => crew.Present place) present fun _ _ _ _ step => step.present

/-- Who made steps of its own and may start workers is at its place still. -/
theorem At.of_mayCall {worker : UInt32} {far : Progress → Prop} (here : crew.At place worker far)
    (reached : Reachable limit crew) (runs : Runs limit (· = .worker place) crew later)
    (free : later.MayCall (.worker place)) :
    later.At place worker fun progress => progress.mayPanic := by
  obtain ⟨call, found, named, -⟩ := here.call
  have numbered : later.workerAt place = some worker :=
    runs.workerAt (Option.bind_eq_some_iff.mpr ⟨call, found, named⟩)
  obtain ⟨idle, same, there, inGuest⟩ := free
  rw [Crew.workerAt, there] at numbered
  refine ⟨runs.coherent (accounted_of_reachable reached).coherent, ⟨same, there, numbered, ?_⟩, idle⟩
  exact Progress.mayPanic_of_isInGuest inGuest

theorem Alters.exited (alters : Alters limit pool call after altered) (coherent : call.Coherent)
    (thread : call.thread = .exited false) : altered.thread = .exited false := by
  cases alters with
  | spawns spawns =>
      rw [spawns.absent coherent] at thread
      cases thread
  | keeps stage => exact thread
  | works works => cases works <;> simp_all [Progress.isInGuest, Progress.mayPanic]
  | records named exited => rfl

theorem Step.exited (step : Step limit crew actor later) (coherent : crew.Coherent)
    (exited : crew.Exited place) : later.Exited place := by
  obtain ⟨call, found, thread⟩ := exited
  have whole : ∃ call, crew.calls[place]? = some call ∧
      (call.Coherent ∧ call.thread = .exited false) :=
    ⟨call, found, coherent call (List.mem_of_getElem? found), thread⟩
  obtain ⟨same, there, -, still⟩ := step.call_of_alters
    (fun alters ⟨coherent, thread⟩ => ⟨alters.coherent coherent, alters.exited coherent thread⟩)
    whole
  exact ⟨same, there, still⟩

theorem Runs.exited {may : Actor → Prop} (runs : Runs limit may crew later)
    (coherent : crew.Coherent) (exited : crew.Exited place) : later.Exited place := by
  have both : later.Coherent ∧ later.Exited place := by
    refine runs.preserve (fun crew => crew.Coherent ∧ crew.Exited place) ⟨coherent, exited⟩ ?_
    rintro actor before after - step ⟨coherent, exited⟩
    exact ⟨step.coherent coherent, step.exited coherent exited⟩
  exact both.2

theorem Step.kept_present (step : Step limit crew actor later) (coherent : crew.Coherent)
    (present : ∀ place ∈ crew.kept, crew.Present place) :
    ∀ place ∈ later.kept, later.Present place := by
  have stays (place : Nat) (member : place ∈ crew.kept) : later.Present place :=
    step.present (present place member)
  cases step with
  | @keep place call worker found stage =>
      intro other member
      rcases List.mem_append.mp member with old | new
      · exact stays other old
      · obtain rfl := List.mem_singleton.mp new
        have begun : call.thread ≠ .absent :=
          (coherent call (List.mem_of_getElem? found)).mpr (by rw [stage]; rfl)
        exact ⟨_, List.getElem?_set_self (List.getElem?_eq_some_iff.mp found).1, begun⟩
  | take | takeNone => exact List.forall_mem_nil _
  | _ => exact stays

/-- The handles that the pool has are those of threads. -/
theorem present_of_kept (reached : Reachable limit crew) :
    ∀ place ∈ crew.kept, crew.Present place := by
  have both : crew.Coherent ∧ ∀ place ∈ crew.kept, crew.Present place := by
    refine reached.preserve (fun crew => crew.Coherent ∧ ∀ place ∈ crew.kept, crew.Present place)
      ⟨coherent_empty, List.forall_mem_nil _⟩ ?_
    rintro actor before after - step ⟨coherent, present⟩
    exact ⟨step.coherent coherent, step.kept_present coherent present⟩
  exact both.2

theorem Spawns.begins (spawns : Spawns limit pool call after altered) :
    (after.started = pool.started ∧ altered.thread = call.thread) ∨
      ∃ worker, after.started = pool.started ++ [(worker, call.launch)] ∧
        altered.worker? = some worker ∧ altered.thread = .begun := by
  cases spawns with
  | claim stage granted =>
      obtain ⟨rfl, -⟩ := Pool.claim_eq_ok_iff.mp granted
      exact .inl ⟨rfl, rfl⟩
  | start stage => exact .inr ⟨_, rfl, rfl, rfl⟩
  | _ => exact .inl ⟨rfl, rfl⟩

theorem present_of_set (found : crew.calls[place]? = some call)
    (calls : later.calls = crew.calls.set place altered)
    (thread : altered.thread ≠ .absent → call.thread ≠ .absent) {other : Nat}
    (there : later.Present other) : crew.Present other := by
  obtain ⟨same, met, present⟩ := there
  rw [calls] at met
  rcases getElem?_set_cases met with ⟨rfl, rfl⟩ | ⟨-, old⟩
  · exact ⟨call, found, thread present⟩
  · exact ⟨same, old, present⟩

/-- A step starts one thread at a new place, or none. -/
theorem Step.begins (step : Step limit crew actor later) (coherent : crew.Coherent)
    (called : crew.Called) :
    (later.pool.started = crew.pool.started ∧ ∀ place, later.Present place → crew.Present place) ∨
      ∃ place worker launch, later.pool.started = crew.pool.started ++ [(worker, launch)] ∧
        later.At place worker (· = .begun) ∧ ¬ crew.Present place ∧
        ∀ other, later.Present other → other = place ∨ crew.Present other := by
  have calledLater := step.called coherent called
  have coherentLater := step.coherent coherent
  cases step with
  | call launch free =>
      refine .inl ⟨rfl, ?_⟩
      rintro place ⟨call, there, present⟩
      rcases getElem?_append_cases there with ⟨-, rfl⟩ | old
      · exact absurd rfl present
      · exact ⟨call, old, present⟩
  | @spawn place call altered pool found spawns =>
      rcases spawns.begins with ⟨started, thread⟩ | ⟨worker, started, named, thread⟩
      · exact .inl ⟨started, fun other => present_of_set found rfl (by rw [thread]; exact id)⟩
      · have absent := spawns.absent (coherent call (List.mem_of_getElem? found))
        have there : (crew.calls.set place altered)[place]? = some altered :=
          List.getElem?_set_self (List.getElem?_eq_some_iff.mp found).1
        refine .inr ⟨place, worker, call.launch, started, ⟨coherentLater, ⟨altered, there, named,
          thread⟩, ?_⟩, ?_, ?_⟩
        · -- A worker is at it only while its guest may run.
          rintro ⟨other, among, asked, busy⟩
          obtain ⟨index, met⟩ := List.mem_iff_getElem?.mp among
          obtain ⟨-, above⟩ := calledLater.worker index other place met asked
          obtain ⟨same, again, inGuest⟩ := above busy
          rw [there] at again
          cases again
          rw [thread] at inGuest
          cases inGuest
        · rintro ⟨same, again, present⟩
          rw [found] at again
          cases again
          exact present absent
        · rintro other ⟨same, met, present⟩
          rcases getElem?_set_cases met with ⟨rfl, -⟩ | ⟨-, old⟩
          · exact .inl rfl
          · exact .inr ⟨same, old, present⟩
  | keep found stage =>
      refine .inl ⟨rfl, fun other => present_of_set found rfl ?_⟩
      exact id
  | work found free works =>
      refine .inl ⟨?_, fun other => present_of_set found rfl fun _ => works.frame.1⟩
      cases works <;> rfl
  | record found next batch met named thread =>
      exact .inl ⟨rfl, fun other => present_of_set met rfl fun _ => by rw [thread]; nofun⟩
  | _ => exact .inl ⟨rfl, fun _ => id⟩

/-- The threads that one starts begin at places where nothing was, and stay there. -/
theorem Runs.begins (runs : Runs limit (· = actor) crew later) (reached : Reachable limit crew)
    (alive : ∀ place, actor = .worker place → crew.Present place) :
    ∃ more : List (Nat × UInt32 × Wire.Launch),
      later.pool.started = crew.pool.started ++ more.map Prod.snd ∧ (more.map Prod.fst).Nodup ∧
        (∀ entry ∈ more, later.At entry.1 entry.2.1 (· = .begun) ∧ ¬ crew.Present entry.1) ∧
        ∀ place, later.Present place → crew.Present place ∨ place ∈ more.map Prod.fst := by
  induction runs with
  | refl => exact ⟨[], by simp, List.nodup_nil, List.forall_mem_nil _, fun _ => .inl⟩
  | @step middle last mover runs allowed step ih =>
      subst allowed
      obtain ⟨more, started, distinct, here, covers⟩ := ih
      have reachedMiddle : Reachable limit middle := reached.trans (runs.mono fun _ _ => trivial)
      -- Who makes the steps had a thread from the first, so a thread that begins is another's.
      have stays : ∀ entry ∈ more, last.At entry.1 entry.2.1 (· = .begun) := by
        intro entry member
        obtain ⟨there, absent⟩ := here entry member
        refine there.step (fun _ same => by rw [same]; rfl) (fun same => ?_) step
        exact absent (alive entry.1 same)
      rcases step.begins (accounted_of_reachable reachedMiddle).coherent
        (called_of_reachable reachedMiddle) with ⟨same, old⟩ | ⟨place, worker, launch, added, begun,
          absent, old⟩
      · refine ⟨more, by rw [same, started], distinct, fun entry member => ?_, ?_⟩
        · exact ⟨stays entry member, (here entry member).2⟩
        · exact fun place present => covers place (old place present)
      · refine ⟨more ++ [(place, worker, launch)], by simp [added, started], ?_, ?_, ?_⟩
        · have new : place ∉ more.map Prod.fst := by
            intro member
            obtain ⟨entry, among, rfl⟩ := List.mem_map.mp member
            obtain ⟨call, found, -, thread⟩ := (here entry among).1.call
            exact absent ⟨call, found, by rw [thread]; nofun⟩
          rw [List.map_append, List.nodup_append]
          refine ⟨distinct, by simp, ?_⟩
          rintro _ first _ second rfl
          simp only [List.map_cons, List.map_nil, List.mem_singleton] at second
          exact new (second ▸ first)
        · intro entry member
          rcases List.mem_append.mp member with before | last
          · exact ⟨stays entry before, (here entry before).2⟩
          · rw [List.mem_singleton.mp last]
            exact ⟨begun, fun present => absent (runs.present present)⟩
        · intro other present
          rw [List.map_append, List.mem_append]
          rcases old other present with rfl | before
          · exact .inr (.inr (List.mem_singleton_self _))
          · exact (covers other before).imp id .inl

end Crew

open Crew

variable {host : Host} {limit : Option UInt32} {actor : Actor} {crew later : Crew} {place : Nat}
  {worker : UInt32} {adopted : List (UInt32 × Wire.Launch)}

/-! ## Threads of a session -/

/-- The thread of a worker waits, and goes on by steps of the worker that was started at a place,
up to its exit. -/
def Thread.Waits (limit : Option UInt32) (place : Nat) (worker : UInt32) (crew : Crew) :
    Thread Shared Unit → Prop
  | .done _ _ => False
  | .waiting _ _ resume => crew.At place worker (fun progress => progress.mayPanic) ∧
    ∀ adopted next changed, Runs limit (· ≠ .worker place) crew next →
      next.Tracks adopted changed.pool → (resume changed).Follows limit (.worker place)
        (fun later _ => later.Exited place) adopted next

theorem Thread.Waits.here {thread : Thread Shared Unit}
    (waits : thread.Waits limit place worker crew) :
    crew.At place worker fun progress => progress.mayPanic := by
  cases thread with
  | done shared value => cases waits
  | waiting shared ready resume => exact waits.1

theorem Thread.Waits.runs {thread : Thread Shared Unit}
    (waits : thread.Waits limit place worker crew)
    (runs : Runs limit (· ≠ .worker place) crew later) :
    thread.Waits limit place worker later := by
  cases thread with
  | done shared value => cases waits
  | waiting shared ready resume =>
      obtain ⟨here, resumes⟩ := waits
      exact ⟨here.runs (fun _ => id) runs, fun adopted next changed others tracks =>
        resumes adopted next changed (runs.trans others) tracks⟩

/-- The thread of a worker that was started waits. -/
theorem waits_workerThread {shared : Shared} (launch : Wire.Launch)
    (begun : crew.At place worker (· = .begun)) :
    (host.workerThread shared worker launch).Waits host.config.workers place worker crew := by
  refine ⟨begun.imp fun _ same => by rw [same]; rfl, ?_⟩
  intro adopted next changed others tracks
  have there : next.At place worker (· = .begun) :=
    begun.runs (fun _ same => by rw [same]; rfl) others
  have works : (host.work worker launch).Follows host.config.workers (.worker place) worker
      (At place worker (· = .begun)) fun _ => At place worker (· = .exited false) :=
    .of_work launch
  have follows := works adopted next (Context.new host worker) changed rfl tracks there
  refine follows.andThen fun _ taken later _ tracks ended => ?_
  obtain ⟨-, ended⟩ := ended
  obtain ⟨last, here, -, exited⟩ := ended.call
  exact ⟨later, .refl, tracks, last, here, exited⟩

/-- Who is at which place: threads that wait, and workers that were started since.  One may
be about to make steps. -/
structure Roster (limit : Option UInt32) (actor : Actor)
    (running : List (Nat × UInt32 × Thread Shared Unit)) (begun : List (Nat × UInt32 × Wire.Launch))
    (crew : Crew) : Prop where
  distinct : (running.map Prod.fst ++ begun.map Prod.fst).Nodup
  others : ∀ place ∈ running.map Prod.fst ++ begun.map Prod.fst, actor ≠ .worker place
  waits : ∀ entry ∈ running, entry.2.2.Waits limit entry.1 entry.2.1 crew
  begins : ∀ entry ∈ begun, crew.At entry.1 entry.2.1 (· = .begun)
  covers : ∀ place, crew.Present place → actor = .worker place ∨
    place ∈ running.map Prod.fst ++ begun.map Prod.fst ∨ crew.Exited place

namespace Roster

variable {running rest : List (Nat × UInt32 × Thread Shared Unit)}
  {begun : List (Nat × UInt32 × Wire.Launch)} {thread : Thread Shared Unit} {index : Nat}

theorem present (roster : Roster limit actor running begun crew)
    (member : place ∈ running.map Prod.fst ++ begun.map Prod.fst) : crew.Present place := by
  rcases List.mem_append.mp member with waiting | begins
  · obtain ⟨entry, among, rfl⟩ := List.mem_map.mp waiting
    exact (roster.waits entry among).here.present fun _ => Progress.ne_absent_of_mayPanic
  · obtain ⟨entry, among, rfl⟩ := List.mem_map.mp begins
    exact (roster.begins entry among).present fun _ same => by rw [same]; nofun

/-- What one does leaves everybody else in their places, and adds those whom it starts. -/
theorem runs (roster : Roster limit actor running begun crew)
    (runs : Runs limit (· = actor) crew later) (reached : Reachable limit crew)
    (alive : ∀ place, actor = .worker place → crew.Present place) :
    ∃ more, later.pool.started = crew.pool.started ++ more.map Prod.snd ∧
      Roster limit actor running (begun ++ more) later := by
  obtain ⟨more, started, distinct, here, grown⟩ := runs.begins reached alive
  have new (place : Nat) (member : place ∈ more.map Prod.fst) : ¬ crew.Present place := by
    obtain ⟨entry, among, rfl⟩ := List.mem_map.mp member
    exact (here entry among).2
  have away (place : Nat) (member : place ∈ running.map Prod.fst ++ begun.map Prod.fst) :
      Runs limit (· ≠ .worker place) crew later :=
    runs.mono fun _ same => same ▸ roster.others place member
  refine ⟨more, started, ?_, ?_, ?_, ?_, ?_⟩
  · rw [List.map_append, ← List.append_assoc, List.nodup_append]
    refine ⟨roster.distinct, distinct, ?_⟩
    rintro old member _ fresh rfl
    exact new old fresh (roster.present member)
  · intro place member
    rw [List.map_append, ← List.append_assoc] at member
    rcases List.mem_append.mp member with old | fresh
    · exact roster.others place old
    · exact fun same => new place fresh (alive place same)
  · intro entry member
    refine (roster.waits entry member).runs (away entry.1 ?_)
    exact List.mem_append_left _ (List.mem_map_of_mem member)
  · intro entry member
    rcases List.mem_append.mp member with old | fresh
    · refine (roster.begins entry old).runs (fun _ same => by rw [same]; rfl) (away entry.1 ?_)
      exact List.mem_append_right _ (List.mem_map_of_mem old)
    · exact (here entry fresh).1
  · intro place present
    rw [List.map_append, ← List.append_assoc]
    rcases grown place present with before | fresh
    · rcases roster.covers place before with same | known | exited
      · exact .inl same
      · exact .inr (.inl (List.mem_append_left _ known))
      · exact .inr (.inr (runs.exited (accounted_of_reachable reached).coherent exited))
    · exact .inr (.inl (List.mem_append_right _ fresh))

theorem perm (roster : Roster limit actor running begun crew) (same : running.Perm rest) :
    Roster limit actor rest begun crew := by
  have places := (same.map Prod.fst).append_right (begun.map Prod.fst)
  refine ⟨places.nodup roster.distinct, fun place member => roster.others place
    (places.mem_iff.mpr member), fun entry member => roster.waits entry (same.mem_iff.mpr member),
    roster.begins, fun place present => ?_⟩
  rw [← places.mem_iff]
  exact roster.covers place present

/-- One of the threads, and the others. -/
theorem pick {passed threads : List (UInt32 × Thread Shared Unit)}
    (roster : Roster limit actor running begun crew)
    (same : (running.map Prod.snd).Perm (passed ++ (worker, thread) :: threads)) :
    ∃ place rest, Roster limit actor ((place, worker, thread) :: rest) begun crew ∧
      (rest.map Prod.snd).Perm (passed ++ threads) := by
  have among : (worker, thread) ∈ running.map Prod.snd := by
    rw [same.mem_iff]
    simp
  obtain ⟨⟨place, entry⟩, member, rfl⟩ := List.mem_map.mp among
  obtain ⟨first, last, rfl⟩ := List.append_of_mem member
  have picked : (first ++ (place, worker, thread) :: last).Perm
    ((place, worker, thread) :: (first ++ last)) := List.perm_middle
  refine ⟨place, first ++ last, roster.perm picked, (List.perm_cons (worker, thread)).mp ?_⟩
  exact (picked.map Prod.snd).symm.trans (same.trans List.perm_middle)

/-- A worker is about to make steps. -/
theorem leave (roster : Roster limit (.main index) ((place, worker, thread) :: rest) begun crew) :
    Roster limit (.worker place) rest begun crew := by
  have distinct := roster.distinct
  rw [List.map_cons, List.cons_append, List.nodup_cons] at distinct
  refine ⟨distinct.2, fun other member same => ?_,
    fun entry member => roster.waits entry (List.mem_cons_of_mem _ member), roster.begins, ?_⟩
  · cases same
    exact distinct.1 member
  · intro other present
    rcases roster.covers other present with main | known | exited
    · cases main
    · rcases List.mem_cons.mp known with rfl | known
      · exact .inl rfl
      · exact .inr (.inl known)
    · exact .inr (.inr exited)

/-- The worker waits again. -/
theorem rejoin (roster : Roster limit (.worker place) rest begun crew)
    (waits : thread.Waits limit place worker crew) :
    Roster limit (.main index) ((place, worker, thread) :: rest) begun crew := by
  refine ⟨?_, fun _ _ => nofun, ?_, roster.begins, ?_⟩
  · rw [List.map_cons, List.cons_append, List.nodup_cons]
    exact ⟨fun member => roster.others place member rfl, roster.distinct⟩
  · intro entry member
    rcases List.mem_cons.mp member with rfl | old
    · exact waits
    · exact roster.waits entry old
  · intro other present
    rcases roster.covers other present with same | known | exited
    · cases same
      exact .inr (.inl List.mem_cons_self)
    · exact .inr (.inl (List.mem_cons_of_mem _ known))
    · exact .inr (.inr exited)

/-- The worker exited. -/
theorem retire (roster : Roster limit (.worker place) rest begun crew)
    (exited : crew.Exited place) : Roster limit (.main index) rest begun crew := by
  refine ⟨roster.distinct, fun _ _ => nofun, roster.waits, roster.begins, fun other present => ?_⟩
  rcases roster.covers other present with same | known
  · cases same
    exact .inr (.inr exited)
  · exact .inr known

/-- The workers that were started are given threads. -/
theorem adopt (roster : Roster host.config.workers actor running begun crew) (shared : Shared) :
    Roster host.config.workers actor (running ++ begun.map fun entry =>
      (entry.1, entry.2.1, host.workerThread shared entry.2.1 entry.2.2)) [] crew := by
  have places : (running ++ begun.map fun entry =>
      (entry.1, entry.2.1, host.workerThread shared entry.2.1 entry.2.2)).map Prod.fst ++ [] =
      running.map Prod.fst ++ begun.map Prod.fst := by
    simp
  refine ⟨?_, ?_, ?_, List.forall_mem_nil _, ?_⟩
  · rw [List.map_nil, places]
    exact roster.distinct
  · rw [List.map_nil, places]
    exact roster.others
  · intro entry member
    rcases List.mem_append.mp member with old | fresh
    · exact roster.waits entry old
    · obtain ⟨first, among, rfl⟩ := List.mem_map.mp fresh
      exact waits_workerThread first.2.2 (roster.begins first among)
  · rw [List.map_nil, places]
    exact roster.covers

/-- Where no call changes everybody stays. -/
theorem stay (roster : Roster limit actor running begun crew)
    (runs : Runs limit (fun mover => ∀ place, mover ≠ .worker place) crew later)
    (calls : later.calls = crew.calls) : Roster limit actor running begun later := by
  have away (place : Nat) : Runs limit (· ≠ .worker place) crew later :=
    runs.mono fun _ other => other place
  refine ⟨roster.distinct, roster.others, fun entry member => ?_, fun entry member => ?_, ?_⟩
  · exact (roster.waits entry member).runs (away entry.1)
  · exact (roster.begins entry member).runs (fun _ same => by rw [same]; rfl) (away entry.1)
  · unfold Present Exited
    rw [calls]
    exact roster.covers

/-- Who is at a place and has no thread that waits exited. -/
theorem exited (roster : Roster limit (.main index) running begun crew)
    (named : crew.workerAt place = some worker) (present : crew.Present place)
    (waits : ∀ entry ∈ running, entry.2.1 ≠ worker)
    (begins : ∀ entry ∈ begun, entry.2.1 ≠ worker) : crew.Exited place := by
  have here {number : UInt32} {far : Progress → Prop} (there : crew.At place number far) :
      number = worker := by
    obtain ⟨call, found, numbered, -⟩ := there.call
    rw [Crew.workerAt, found] at named
    exact Option.some.inj (numbered.symm.trans named)
  rcases roster.covers place present with main | known | exited
  · cases main
  · rcases List.mem_append.mp known with waiting | begun
    · obtain ⟨entry, among, rfl⟩ := List.mem_map.mp waiting
      exact absurd (here (roster.waits entry among).here) (waits entry among)
    · obtain ⟨entry, among, rfl⟩ := List.mem_map.mp begun
      exact absurd (here (roster.begins entry among)) (begins entry among)
  · exact exited

end Roster

end WasmBridge
