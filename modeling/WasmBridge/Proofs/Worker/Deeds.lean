import WasmBridge.Proofs.Context.AtOnce
import WasmBridge.Worker.Run

/-!
# The deeds of a worker

What the thread of a worker does is told as a list of deeds, in order.  An activity takes a
course when its ends are exactly those of the deeds on the course.
-/

namespace WasmBridge

open Activity

/-- Instantiate the module for a worker and bind the memory that it shares. -/
def Host.prepare (host : Host) (again : Reentry) : Attempt Unit := do
  host.instantiate again true
  match host.plan, host.bridge? with
  | .exported, _ => throw (.threadsUnavailable "no shared memory to attach")
  | _, none => throw (.threadsUnavailable "no shared memory to attach")
  | _, some bridge => (Host.bindBridge bridge : Activity Unit)

/-- What comes of a call of an export. -/
def Guest.resultOf (name : String) (outcome : Except Guest.Trap (List Wasm.Value)) :
    Except Fault Unit :=
  match outcome with
  | .ok _ => .ok ()
  | .error trap => .error (.guestTrap name trap.text)

/-- A deed of the thread of a worker. -/
inductive Deed where
  /-- It prepares the context for its guest, with a result. -/
  | prepared (result : Except Fault Unit)
  /-- It calls an export with words, and the call has an outcome. -/
  | called (name : String) (args : List UInt32) (outcome : Except Guest.Trap (List Wasm.Value))
  /-- It sets an exported global to a word. -/
  | stored (name : String) (word : UInt32)
  | reported (event : Log.Event)
  /-- It records the phase of its worker. -/
  | recorded (phase : Phase)
  /-- It gives its place in the pool back. -/
  | gaveBack

/-- What a deed does to a context and to what it shares. -/
def Deed.Does (host : Host) (again : Reentry) (others : Shared → Shared → Prop)
    (before after : Moment) : Deed → Prop
  | prepared result => (host.prepare again).run.EndsAmid others before result after
  | called name args outcome =>
    (again.call (.exported name) (args.map .word)).EndsAmid others before outcome after
  | stored name word => after = (before.1.setGlobal (.exported name) (.word word), before.2)
  | reported event =>
    after = (before.1, { before.2 with log := before.2.log.push (before.1.id, event) })
  | recorded phase =>
    after = (before.1, { before.2 with pool := before.2.pool.setPhase before.1.id phase })
  | gaveBack => after = (before.1, { before.2 with pool := before.2.pool.giveBack })

/-- Deeds happen one after the other. -/
inductive Happen (host : Host) (again : Reentry) (others : Shared → Shared → Prop) :
    Moment → List Deed → Moment → Prop where
  | nil (before : Moment) : Happen host again others before [] before
  | cons {before middle after : Moment} {deed : Deed} {deeds : List Deed}
      (first : deed.Does host again others before middle)
      (rest : Happen host again others middle deeds after) :
      Happen host again others before (deed :: deeds) after

variable {host : Host} {again : Reentry} {others : Shared → Shared → Prop}
  {before after : Moment} {deed : Deed} {early late : List Deed} {α β : Type}

theorem happen_nil_iff : Happen host again others before [] after ↔ after = before := by
  constructor
  · intro happen
    cases happen
    rfl
  · rintro rfl
    exact .nil after

theorem happen_cons_iff :
    Happen host again others before (deed :: late) after ↔
      ∃ middle, deed.Does host again others before middle ∧
        Happen host again others middle late after := by
  constructor
  · intro happen
    cases happen with
    | cons first rest => exact ⟨_, first, rest⟩
  · rintro ⟨middle, first, rest⟩
    exact .cons first rest

theorem happen_singleton_iff :
    Happen host again others before [deed] after ↔ deed.Does host again others before after := by
  rw [happen_cons_iff]
  constructor
  · rintro ⟨middle, first, rest⟩
    rwa [happen_nil_iff.mp rest]
  · intro first
    exact ⟨after, first, .nil after⟩

theorem happen_append_iff :
    Happen host again others before (early ++ late) after ↔
      ∃ middle, Happen host again others before early middle ∧
        Happen host again others middle late after := by
  induction early generalizing before with
  | nil =>
      constructor
      · intro happen
        exact ⟨before, .nil before, happen⟩
      · rintro ⟨middle, first, rest⟩
        rwa [← happen_nil_iff.mp first]
  | cons deed early ih =>
      rw [List.cons_append, happen_cons_iff]
      constructor
      · rintro ⟨next, first, rest⟩
        obtain ⟨middle, early, late⟩ := ih.mp rest
        exact ⟨middle, .cons first early, late⟩
      · rintro ⟨middle, first, rest⟩
        obtain ⟨next, first, early⟩ := happen_cons_iff.mp first
        exact ⟨next, first, ih.mpr ⟨middle, early, rest⟩⟩

/-! ## Courses -/

/-- Deeds that an activity may do, with the answers it may end with. -/
abbrev Course (α : Type) := List Deed → α → Prop

namespace Course

/-- No deed, and an answer. -/
inductive Idle (value : α) : Course α where
  | idle : Idle value [] value

/-- One deed, and an answer. -/
inductive Single (deed : Deed) (value : α) : Course α where
  | single : Single deed value [deed] value

/-- One course, and after it another that depends on the answer. -/
inductive Bind (first : Course α) (next : α → Course β) : Course β where
  | bind {early late : List Deed} {value : α} {answer : β} (begun : first early value)
      (rest : next value late answer) : Bind first next (early ++ late) answer

/-- A call of an export, and what comes of it. -/
inductive Call (name : String) (args : List UInt32) : Course (Except Fault Unit) where
  | call {outcome : Except Guest.Trap (List Wasm.Value)} :
      Call name args [.called name args outcome] (Guest.resultOf name outcome)

/-- One course, and after it another unless the first fails. -/
inductive Then (first : Course (Except Fault Unit)) (next : Course (Except Fault β)) :
    Course (Except Fault β) where
  | stop {deeds : List Deed} {fault : Fault} (failed : first deeds (.error fault)) :
      Then first next deeds (.error fault)
  | go {early late : List Deed} {result : Except Fault β} (done : first early (.ok ()))
      (rest : next late result) : Then first next (early ++ late) result

theorem ext {first second : Course α}
    (same : ∀ deeds answer, first deeds answer ↔ second deeds answer) : first = second :=
  funext fun deeds => funext fun answer => propext (same deeds answer)

theorem bind_eq_then (first : Course (Except Fault Unit)) (next : Course (Except Fault β)) :
    (Bind first fun
      | .ok () => next
      | .error fault => Idle (.error fault)) = Then first next := by
  refine ext fun deeds result => ⟨fun course => ?_, fun course => ?_⟩
  · cases course with
    | @bind early late value answer done course =>
        cases value with
        | ok value => exact .go done course
        | error fault =>
            cases course
            rw [List.append_nil]
            exact .stop done
  · cases course with
    | @stop deeds fault failed =>
        rw [← List.append_nil deeds]
        exact Bind.bind failed Idle.idle
    | go done course => exact Bind.bind done course

/-- Nothing more to do is the end of a course. -/
theorem then_idle (first : Course (Except Fault Unit)) :
    Then first (Idle (.ok ())) = first := by
  refine ext fun deeds result => ⟨fun course => ?_, fun course => ?_⟩
  · cases course with
    | stop failed => exact failed
    | go done rest =>
        cases rest
        rwa [List.append_nil]
  · cases result with
    | ok value =>
        rw [← List.append_nil deeds]
        exact .go course .idle
    | error fault => exact .stop course

/-- After what does nothing and succeeds there is what follows. -/
theorem idle_then (next : Course (Except Fault β)) : Then (Idle (.ok ())) next = next := by
  refine ext fun deeds result => ⟨fun course => ?_, fun course => ?_⟩
  · cases course with
    | stop failed => cases failed
    | go done rest =>
        cases done
        exact rest
  · have both : Then (Idle (.ok ())) next ([] ++ deeds) result := .go .idle course
    exact both

end Course

/-- The ends of an activity are those of deeds on a course. -/
def Activity.Takes (host : Host) (again : Reentry) (others : Shared → Shared → Prop)
    (activity : Activity α) (course : Course α) : Prop :=
  ∀ before answer after, activity.EndsAmid others before answer after ↔
    ∃ deeds, Happen host again others before deeds after ∧ course deeds answer

namespace Activity.Takes

variable {activity : Activity α} {next : α → Activity β} {first : Course α}

theorem of_pure (value : α) : Takes host again others (pure value) (Course.Idle value) := by
  intro before answer after
  rw [endsAmid_pure_iff]
  constructor
  · rintro ⟨rfl, rfl⟩
    exact ⟨[], .nil after, .idle⟩
  · rintro ⟨deeds, happen, course⟩
    cases course
    exact ⟨rfl, happen_nil_iff.mp happen⟩

/-- An activity that ends where one deed leads takes the course of that deed. -/
theorem of_deed (value : α)
    (does : ∀ before answer after, activity.EndsAmid others before answer after ↔
      answer = value ∧ deed.Does host again others before after) :
    Takes host again others activity (Course.Single deed value) := by
  intro before answer after
  rw [does]
  constructor
  · rintro ⟨rfl, done⟩
    exact ⟨[deed], happen_singleton_iff.mpr done, .single⟩
  · rintro ⟨deeds, happen, course⟩
    cases course
    exact ⟨rfl, happen_singleton_iff.mp happen⟩

/-- A call of an export, with its trap as a fault. -/
theorem of_call (name : String) (args : List UInt32) :
    Takes host again others
      (again.call (.exported name) (args.map .word) >>= fun outcome =>
        pure (Guest.resultOf name outcome))
      (Course.Call name args) := by
  intro before result after
  rw [endsAmid_bind_iff]
  constructor
  · rintro ⟨outcome, middle, ends, rest⟩
    obtain ⟨rfl, rfl⟩ := endsAmid_pure_iff.mp rest
    have done : Deed.Does host again others before after (.called name args outcome) := ends
    exact ⟨_, happen_singleton_iff.mpr done, .call⟩
  · rintro ⟨deeds, happen, course⟩
    cases course
    exact ⟨_, after, happen_singleton_iff.mp happen, endsAmid_pure_iff.mpr ⟨rfl, rfl⟩⟩

theorem bind {rest : α → Course β} (begins : Takes host again others activity first)
    (goes : ∀ value, Takes host again others (next value) (rest value)) :
    Takes host again others (activity >>= next) (Course.Bind first rest) := by
  intro before answer after
  rw [endsAmid_bind_iff]
  constructor
  · rintro ⟨value, middle, ends, later⟩
    obtain ⟨early, happen, begun⟩ := (begins before value middle).mp ends
    obtain ⟨late, follow, done⟩ := (goes value middle answer after).mp later
    exact ⟨early ++ late, happen_append_iff.mpr ⟨middle, happen, follow⟩, .bind begun done⟩
  · rintro ⟨deeds, happen, course⟩
    cases course with
    | bind begun done =>
        obtain ⟨middle, happen, follow⟩ := happen_append_iff.mp happen
        exact ⟨_, middle, (begins _ _ _).mpr ⟨_, happen, begun⟩,
          (goes _ _ _ _).mpr ⟨_, follow, done⟩⟩

/-- What follows an attempt is on its course only if the attempt succeeds. -/
theorem run_bind {attempt : Attempt Unit} {next : Unit → Attempt β}
    {begun : Course (Except Fault Unit)} {rest : Course (Except Fault β)}
    (begins : Takes host again others attempt.run begun)
    (goes : Takes host again others (next ()).run rest) :
    Takes host again others (attempt >>= next).run (Course.Then begun rest) := by
  have both : Takes host again others (attempt.run >>= ExceptT.bindCont next)
      (Course.Bind begun fun
        | .ok () => rest
        | .error fault => Course.Idle (.error fault)) := by
    refine begins.bind fun result => ?_
    cases result with
    | ok value => exact goes
    | error fault => exact .of_pure _
  rwa [Course.bind_eq_then] at both

end Activity.Takes

end WasmBridge
