import WasmBridge.Proofs.Context.Room

/-!
# What keeps to an instance

What a context does once its instance is set up keeps to that instance: the bridge stays as
it is, and the memory where it is.  The memory may be written to and may grow.  An activity
that enters the context again is confined if its own steps keep to the instance.
-/

namespace WasmBridge

open Activity

/-- Whether an event is the report of a message that failed. -/
def Log.Event.isFailure : Log.Event → Bool
  | .messageFailed .. => true
  | _ => false

/-! ## What stays of an instance -/

/-- The memory of an instance is where it was, and may have grown if it is the context's
own. -/
inductive MemoryHome.Remains : MemoryHome → MemoryHome → Prop where
  | absent : Remains .absent .absent
  | «shared» : Remains .shared .shared
  | own {first later : LinearMemory} (grows : first.GrowsInto later) :
      Remains (.own first) (.own later)

/-- A context has the instance that it had. -/
structure Context.Keeps (before after : Context) : Prop where
  bridge : after.bridge = before.bridge
  home : before.home.Remains after.home

/-- A context has the instance that it had, and the memory that all contexts share has at
most grown. -/
structure Moment.Keeps (before after : Moment) : Prop where
  context : before.1.Keeps after.1
  memory : before.2.memory.GrowsInto after.2.memory

namespace MemoryHome.Remains

variable {first middle later : MemoryHome}

theorem refl (home : MemoryHome) : home.Remains home := by
  cases home with
  | absent => exact .absent
  | «shared» => exact .shared
  | own memory => exact .own (.refl memory)

theorem trans (early : first.Remains middle) (late : middle.Remains later) :
    first.Remains later := by
  cases early with
  | absent => exact late
  | «shared» => exact late
  | own grows =>
      cases late with
      | own further => exact .own (grows.trans further)

end MemoryHome.Remains

namespace Context.Keeps

variable {before middle after : Context}

theorem refl (context : Context) : context.Keeps context :=
  ⟨rfl, .refl _⟩

theorem trans (early : before.Keeps middle) (late : middle.Keeps after) : before.Keeps after :=
  ⟨late.bridge.trans early.bridge, early.home.trans late.home⟩

end Context.Keeps

namespace Moment.Keeps

variable {before after : Moment} {memory next : LinearMemory}

theorem refl (moment : Moment) : moment.Keeps moment :=
  ⟨.refl _, .refl _⟩

theorem withMemory (found : before.memory? = some memory) (grows : memory.GrowsInto next) :
    before.Keeps (before.withMemory next) := by
  obtain ⟨⟨id, objects, libraries, home, bridge, globals⟩, shared⟩ := before
  cases home with
  | absent => cases found
  | «shared» =>
      cases found
      exact ⟨.refl _, grows⟩
  | own memory =>
      cases found
      exact ⟨⟨rfl, .own grows⟩, .refl _⟩

end Moment.Keeps

/-- A context that keeps its instance has a memory if it had one. -/
theorem Context.Keeps.exists_memory {before after : Moment} {memory : LinearMemory}
    (keeps : before.1.Keeps after.1) (found : before.memory? = some memory) :
    ∃ later, after.memory? = some later := by
  have remains := keeps.home
  unfold Moment.memory? at found ⊢
  generalize before.1.home = first at remains found
  generalize after.1.home = later at remains
  cases remains with
  | absent => cases found
  | «shared» => exact ⟨_, rfl⟩
  | own grows => exact ⟨_, rfl⟩

/-- Nothing is changed but the memory of the instance, which was written to or has grown. -/
inductive Moment.Rewrites (before : Moment) : Moment → Prop where
  | same : before.Rewrites before
  | memory {memory next : LinearMemory} (found : before.memory? = some memory)
      (grows : memory.GrowsInto next) : before.Rewrites (before.withMemory next)

theorem Moment.Rewrites.trans {before middle after : Moment} (early : before.Rewrites middle)
    (late : middle.Rewrites after) : before.Rewrites after := by
  cases early with
  | same => exact late
  | memory found grows =>
      cases late with
      | same => exact .memory found grows
      | memory refound further =>
          rw [Moment.memory?_withMemory found] at refound
          cases refound
          rw [Moment.withMemory_withMemory]
          exact .memory found (grows.trans further)

/-! ## Own steps -/

/-- What a context does in one step of its own. -/
inductive OwnStep (host : Host) (before : Moment) : Moment → Prop where
  /-- It changes itself, but not its number. -/
  | context {context : Context} (same : context.id = before.1.id) :
      OwnStep host before (context, before.2)
  | memory (memory : LinearMemory) :
      OwnStep host before (before.1, { before.2 with memory })
  | heap (heap : Heap) : OwnStep host before (before.1, { before.2 with heap })
  | journal (journal : Array Json) : OwnStep host before (before.1, { before.2 with journal })
  /-- It reports something else than a failed message. -/
  | report {event : Log.Event} (other : event.isFailure = false) :
      OwnStep host before
        (before.1, { before.2 with log := before.2.log.push (before.1.id, event) })
  /-- It starts a worker. -/
  | spawn {launch : Wire.Launch} {worker : UInt32} {pool : Pool}
      (started : before.2.pool.spawn host.config.workers launch = .ok (worker, pool)) :
      OwnStep host before (before.1, { before.2 with pool })

/-- What a context does in one step of its own that keeps to its instance; the events of the
step are allowed. -/
structure ConfinedStep (host : Host) (allows : Context.Event → Prop) (before after : Moment) :
    Prop where
  own : OwnStep host before after
  recorded : ∃ events, before.1.Step events after.1 ∧ ∀ event ∈ events, allows event
  keeps : before.Keeps after

/--
An activity that enters the context again in whatever way it is given: made of own steps that
keep to the instance and of what it enters.  If code of the guest is part of it, it may wait and
send messages too.  An own step knows nothing of the way.
-/
inductive Confined (host : Host) (ofGuest : Prop) (allows : Context.Event → Prop) :
    {α : Type} → (Reentry → Activity α) → Prop where
  | own {α : Type} {activity : Activity α}
      (steps : ∀ before : Moment, ∃ answer after,
        activity.EndsAtOnce before answer after ∧ ConfinedStep host allows before after) :
      Confined host ofGuest allows fun _ => activity
  | wait (guest : ofGuest) (ready : Shared → Bool) :
      Confined host ofGuest allows fun _ => Activity.waitUntil ready
  | call (designator : Wasm.Designator) (args : List Wasm.Value) :
      Confined host ofGuest allows fun again => again.call designator args
  | route (envelope : Wire.Envelope) :
      Confined host ofGuest allows fun again => again.route envelope
  | deliver (guest : ofGuest) (envelope : Wire.Envelope) :
      Confined host ofGuest allows fun again => again.deliver envelope
  | bind {α β : Type} {activity : Reentry → Activity α} {next : α → Reentry → Activity β}
      (first : Confined host ofGuest allows activity)
      (rest : ∀ value, Confined host ofGuest allows (next value)) :
      Confined host ofGuest allows fun again => activity again >>= fun value => next value again

variable {host : Host} {ofGuest : Prop} {allows : Context.Event → Prop} {α β ε δ : Type}

namespace ConfinedStep

variable {before : Moment}

theorem refl (before : Moment) : ConfinedStep host allows before before :=
  ⟨.context rfl, ⟨[], .aside (.refl _), nofun⟩, .refl before⟩

/-- A step that changes what contexts share, and not the memory of it. -/
theorem of_shared {shared : Shared} (own : OwnStep host before (before.1, shared))
    (same : shared.memory = before.2.memory) :
    ConfinedStep host allows before (before.1, shared) where
  own := own
  recorded := ⟨[], .aside (.refl _), nofun⟩
  keeps := ⟨.refl _, by rw [same]; exact .refl _⟩

theorem of_withMemory {memory next : LinearMemory} (found : before.memory? = some memory)
    (grows : memory.GrowsInto next) : ConfinedStep host allows before (before.withMemory next) where
  own := by
    obtain ⟨⟨id, objects, libraries, home, bridge, globals⟩, shared⟩ := before
    cases home with
    | absent => cases found
    | «shared» => exact .memory next
    | own memory => exact .context rfl
  recorded := ⟨[], .aside (before.aside_withMemory next), nofun⟩
  keeps := .withMemory found grows

theorem of_rewrites {after : Moment} (rewritten : before.Rewrites after) :
    ConfinedStep host allows before after := by
  cases rewritten with
  | same => exact .refl before
  | memory found grows => exact .of_withMemory found grows

end ConfinedStep

namespace Confined

/-! ## Parts -/

theorem of_inspection {activity : Activity α}
    (inspects : ∀ before : Moment, ∃ answer, activity.EndsAtOnce before answer before) :
    Confined host ofGuest allows fun _ => activity := by
  refine .own fun before => ?_
  obtain ⟨answer, ends⟩ := inspects before
  exact ⟨answer, before, ends, .refl before⟩

theorem of_changeShared {activity : Activity α}
    (changes : ∀ before : Moment, ∃ answer shared,
      activity.EndsAtOnce before answer (before.1, shared) ∧
        OwnStep host before (before.1, shared) ∧ shared.memory = before.2.memory) :
    Confined host ofGuest allows fun _ => activity := by
  refine .own fun before => ?_
  obtain ⟨answer, shared, ends, step, same⟩ := changes before
  exact ⟨answer, (before.1, shared), ends, .of_shared step same⟩

theorem of_memory {activity : Activity α}
    (rewrites : ∀ before : Moment, ∃ answer after, activity.EndsAtOnce before answer after ∧
      before.Rewrites after) :
    Confined host ofGuest allows fun _ => activity := by
  refine .own fun before => ?_
  obtain ⟨answer, after, ends, rewritten⟩ := rewrites before
  exact ⟨answer, after, ends, .of_rewrites rewritten⟩

theorem of_pure (value : α) :
    Confined host ofGuest allows fun _ => (pure value : Activity α) :=
  of_inspection fun _ => ⟨value, rfl⟩

theorem of_get : Confined host ofGuest allows fun _ => (get : Activity Context) :=
  of_inspection fun before => ⟨before.1, rfl⟩

theorem of_shared : Confined host ofGuest allows fun _ => Activity.shared :=
  of_inspection fun before => ⟨before.2, rfl⟩

theorem of_globals (change : Context → List (Wasm.Global × Wasm.Value)) :
    Confined host ofGuest allows fun _ =>
      (modify fun context => { context with globals := change context } : Activity Unit) :=
  .own fun before =>
    ⟨(), ({ before.1 with globals := change before.1 }, before.2), rfl, .context rfl,
      ⟨[], .aside ⟨rfl, rfl, rfl, id⟩, nofun⟩, ⟨rfl, .refl _⟩, .refl _⟩

theorem of_report {event : Log.Event} (other : event.isFailure = false) :
    Confined host ofGuest allows fun _ => Activity.report event :=
  of_changeShared fun _ => ⟨(), _, rfl, .report other, rfl⟩

theorem run_bind {attempt : Reentry → ExceptT ε Activity α}
    {next : α → Reentry → ExceptT ε Activity β}
    (first : Confined host ofGuest allows fun again => (attempt again).run)
    (rest : ∀ value, Confined host ofGuest allows fun again => (next value again).run) :
    Confined host ofGuest allows fun again =>
      (attempt again >>= fun value => next value again).run := by
  change Confined host ofGuest allows fun again =>
    (attempt again).run >>= ExceptT.bindCont fun value => next value again
  refine first.bind fun result => ?_
  cases result with
  | ok value => exact rest value
  | error error => exact of_pure (Except.error error)

theorem run_lift {activity : Reentry → Activity α}
    (confined : Confined host ofGuest allows activity) :
    Confined host ofGuest allows fun again => (liftM (activity again) : ExceptT ε Activity α).run :=
  confined.bind fun value => of_pure (Except.ok value)

theorem of_except (result : Except ε α) :
    Confined host ofGuest allows fun _ => (ExceptT.mk (pure result) : ExceptT ε Activity α).run :=
  of_pure result

theorem of_except_bind {result : Except ε α} {next : α → Reentry → ExceptT ε Activity β}
    (rest : ∀ value, result = .ok value →
      Confined host ofGuest allows fun again => (next value again).run) :
    Confined host ofGuest allows fun again =>
      (ExceptT.mk (pure result) >>= fun value => next value again).run := by
  cases result with
  | error error => exact of_pure (Except.error error)
  | ok value => exact rest value rfl

theorem of_throw (error : ε) :
    Confined host ofGuest allows fun _ => (throw error : ExceptT ε Activity α).run :=
  of_pure (Except.error error)

theorem run_pure (value : α) :
    Confined host ofGuest allows fun _ => (pure value : ExceptT ε Activity α).run :=
  of_pure (Except.ok value)

theorem run_adapt {attempt : Reentry → ExceptT ε Activity α} {change : ε → δ}
    (confined : Confined host ofGuest allows fun again => (attempt again).run) :
    Confined host ofGuest allows fun again => ((attempt again).adapt change).run :=
  confined.bind fun first => of_pure (first.mapError change)

theorem run_get_bind (next : Context → ExceptT ε Activity α) (before : Moment) :
    ((get : Activity Context) >>= next : ExceptT ε Activity α).run before.1 before.2 =
      (next before.1).run before.1 before.2 :=
  rfl

theorem run_shared_bind (next : Shared → ExceptT ε Activity α) (before : Moment) :
    (Activity.shared >>= next : ExceptT ε Activity α).run before.1 before.2 =
      (next before.2).run before.1 before.2 :=
  rfl

/-! ## Memory and tables -/

theorem of_memory? : Confined host ofGuest allows fun _ => Activity.memory? :=
  of_inspection fun before => ⟨before.memory?, memory?_atOnce before⟩

theorem of_lookup (handle : Handle) :
    Confined host ofGuest allows fun _ => (Attempt.lookup handle).run :=
  of_get.run_lift.run_bind fun context => of_except (context.objects.get handle)

theorem of_bridged : Confined host ofGuest allows fun _ => Attempt.bridged.run := by
  refine of_get.run_lift.run_bind fun context => ?_
  refine of_memory?.run_lift.run_bind fun memory => ?_
  split
  · exact run_pure _
  · exact of_throw _

theorem of_view (offset length : UInt32) :
    Confined host ofGuest allows fun _ => (Attempt.view offset length).run :=
  of_bridged.run_bind fun _ => of_except _

theorem of_write (offset : UInt32) (bytes : Bytes) :
    Confined host ofGuest allows fun _ => (Attempt.write offset bytes).run := by
  refine of_memory fun before => ?_
  cases bound : before.1.bridge with
  | none =>
      exact ⟨_, before, .run_bind_error (Attempt.bridged_atOnce_of_unbound (.inl bound)), .same⟩
  | some bridge =>
      cases found : before.memory? with
      | none =>
          exact ⟨_, before, .run_bind_error (Attempt.bridged_atOnce_of_unbound (.inr found)),
            .same⟩
      | some memory =>
          by_cases fits : memory.fits offset.toNat bytes.length
          · exact ⟨_, _, Attempt.write_atOnce bound found offset bytes fits,
              .memory found (.put memory _ _)⟩
          · exact ⟨_, before, Attempt.write_atOnce_of_outside bound found offset bytes fits,
              .same⟩

theorem of_heap (read : Heap → α) :
    Confined host ofGuest allows fun _ => do return read (← Activity.heap) :=
  (of_shared.bind fun shared => of_pure shared.heap).bind fun heap => of_pure (read heap)

/-- Calls on the table keep to the instance. -/
theorem of_table {activity : Activity α}
    (performs : ∀ before : Moment, ∃ answer call,
      activity.EndsAtOnce before answer
        ({ before.1 with objects := (before.1.objects.step call).2 }, before.2) ∧
      allows (.table (before.1.objects.step call).1)) :
    Confined host ofGuest allows fun _ => activity := by
  refine .own fun before => ?_
  obtain ⟨answer, call, ends, allowed⟩ := performs before
  refine ⟨answer, _, ends, .context rfl, ⟨_, .table call, ?_⟩, ⟨rfl, .refl _⟩, .refl _⟩
  intro event member
  rw [List.mem_singleton.mp member]
  exact allowed

theorem of_insert (value : HostValue)
    (allowed : ∀ answer, allows (.table (.inserted value answer))) :
    Confined host ofGuest allows fun _ => (Attempt.insert value).run := by
  refine of_table fun before =>
    ⟨(before.1.objects.insert value).map Prod.fst, .insert value, ?_, ?_⟩
  · unfold EndsAtOnce Attempt.insert
    rw [run_get_bind]
    dsimp only [HandleTable.step]
    cases before.1.objects.insert value <;> rfl
  · dsimp only [HandleTable.step]
    cases before.1.objects.insert value <;> exact allowed _

theorem of_release (handle : Handle)
    (allowed : ∀ answer, allows (.table (.released handle answer))) :
    Confined host ofGuest allows fun _ => Activity.release handle :=
  of_table fun _ => ⟨_, .release handle, rfl, allowed _⟩

theorem of_register (library : Library) (allowed : allows (.registered library)) :
    Confined host ofGuest allows fun _ => Activity.register library := by
  refine .own fun before => ?_
  refine ⟨_, ({ before.1 with libraries := (before.1.libraries.register library).2 }, before.2),
    rfl, .context rfl, ⟨_, .register library, ?_⟩, ⟨rfl, .refl _⟩, .refl _⟩
  intro event member
  rw [List.mem_singleton.mp member]
  exact allowed

theorem of_spawn (launch : Wire.Launch) :
    Confined host ofGuest allows fun _ => (host.spawn launch).run := by
  unfold Host.spawn
  split
  · exact of_throw _
  · split
    · exact of_throw _
    · refine of_changeShared fun before => ?_
      unfold EndsAtOnce
      rw [run_shared_bind]
      split
      next worker pool started => exact ⟨_, _, rfl, .spawn started, rfl⟩
      next fault refused => exact ⟨_, _, rfl, .context rfl, rfl⟩

end Confined

end WasmBridge
