import WasmBridge.Proofs.Context.Fixtures
import WasmBridge.Proofs.Context.Room
import WasmBridge.Proofs.Worker.Deeds

/-!
# The start of a worker

What the start of a worker does depends on what the module exports and on the launch record,
and stops with the first step that fails.  Once in it, right before the guest gets the
thread for itself, the worker is recorded as running.
-/

namespace WasmBridge

open Activity

namespace Start

/-- How the stack pointer is set: by the function for it if there is one, else in the global,
if that is mutable, else not at all. -/
inductive SetsStackPointer (module : Wasm.Module) (stackPointer : UInt32) :
    Course (Except Fault Unit) where
  | called {outcome : Except Guest.Trap (List Wasm.Value)}
      (exported : module.exportsFunction Wasm.Abi.setStackPointer Wasm.Abi.wordType = true) :
      SetsStackPointer module stackPointer
        [.called Wasm.Abi.setStackPointer [stackPointer] outcome]
        (Guest.resultOf Wasm.Abi.setStackPointer outcome)
  | stored
      (unset : module.exportsFunction Wasm.Abi.setStackPointer Wasm.Abi.wordType = false)
      (global : module.exportedGlobal? Wasm.Abi.stackPointer = some ⟨.i32, true⟩) :
      SetsStackPointer module stackPointer [.stored Wasm.Abi.stackPointer stackPointer] (.ok ())
  | mistyped {type : Wasm.ValueType}
      (unset : module.exportsFunction Wasm.Abi.setStackPointer Wasm.Abi.wordType = false)
      (global : module.exportedGlobal? Wasm.Abi.stackPointer = some ⟨type, true⟩)
      (other : type ≠ .i32) :
      SetsStackPointer module stackPointer []
        (.error (.guestTrap Wasm.Abi.stackPointer "global is not of type i32"))
  | kept
      (unset : module.exportsFunction Wasm.Abi.setStackPointer Wasm.Abi.wordType = false)
      (immutable : ∀ type, module.exportedGlobal? Wasm.Abi.stackPointer ≠ some ⟨type, true⟩) :
      SetsStackPointer module stackPointer [.reported (.stackPointerKept stackPointer)] (.ok ())

/-- How the local storage is prepared. -/
inductive SetsStorage (module : Wasm.Module) (block : UInt32) : Course (Except Fault Unit) where
  | called {outcome : Except Guest.Trap (List Wasm.Value)}
      (exported : module.exportsFunction Wasm.Abi.initTls Wasm.Abi.wordType = true) :
      SetsStorage module block [.called Wasm.Abi.initTls [block] outcome]
        (Guest.resultOf Wasm.Abi.initTls outcome)
  | skipped (absent : module.exportsFunction Wasm.Abi.initTls Wasm.Abi.wordType = false) :
      SetsStorage module block [] (.ok ())

/-- How the guest is entered. -/
inductive Enters (module : Wasm.Module) (entry : UInt32) : Course (Except Fault Unit) where
  | called {outcome : Except Guest.Trap (List Wasm.Value)}
      (exported : module.exportsFunction Wasm.Abi.workerEntry Wasm.Abi.wordType = true) :
      Enters module entry
        [.recorded .running, .called Wasm.Abi.workerEntry [entry] outcome]
        (Guest.resultOf Wasm.Abi.workerEntry outcome)
  | missing (absent : module.exportsFunction Wasm.Abi.workerEntry Wasm.Abi.wordType = false) :
      Enters module entry [] (.error (.missingExport Wasm.Abi.workerEntry))

/-- How a worker is started: by the guest as a whole if it can do that, else step by step. -/
inductive Starts (module : Wasm.Module) (launch : Wire.Launch) : Course (Except Fault Unit) where
  | whole {outcome : Except Guest.Trap (List Wasm.Value)}
      (exported : module.exportsFunction Wasm.Abi.threadStart Wasm.Abi.threadStartType = true) :
      Starts module launch
        [.recorded .running,
          .called Wasm.Abi.threadStart [launch.stackPointer, launch.tlsPointer, launch.entry]
            outcome]
        (Guest.resultOf Wasm.Abi.threadStart outcome)
  | single {deeds : List Deed} {result : Except Fault Unit}
      (absent : module.exportsFunction Wasm.Abi.threadStart Wasm.Abi.threadStartType = false)
      (steps : Course.Then (SetsStackPointer module launch.stackPointer)
        (Course.Then (SetsStorage module launch.tlsPointer) (Enters module launch.entry))
        deeds result) :
      Starts module launch deeds result

end Start

/-- Whether a deed lets the guest have the thread for itself: a call of one of the two exports
for that. -/
def Deed.entersGuest : Deed → Bool
  | .called name _ _ => name == Wasm.Abi.threadStart || name == Wasm.Abi.workerEntry
  | _ => false

/-- Whether a deed records a phase. -/
def Deed.records : Deed → Bool
  | .recorded _ => true
  | _ => false

/-- Deeds by which the guest does not get the thread for itself, and nothing is recorded. -/
def Preliminary (deeds : List Deed) : Prop :=
  ∀ deed ∈ deeds, deed.entersGuest = false ∧ deed.records = false

/-- The guest gets the thread for itself once, right after that is recorded and as the last
deed, or never; then nothing is recorded, and the start fails. -/
inductive EntersOnce : Course (Except Fault Unit) where
  | entered {early : List Deed} {name : String} {args : List UInt32}
      {outcome : Except Guest.Trap (List Wasm.Value)}
      (entry : Deed.entersGuest (.called name args outcome) = true)
      (before : Preliminary early) :
      EntersOnce (early ++ [.recorded .running, .called name args outcome])
        (Guest.resultOf name outcome)
  | never {deeds : List Deed} {fault : Fault} (all : Preliminary deeds) :
      EntersOnce deeds (.error fault)

variable {host : Host} {again : Reentry} {others : Shared → Shared → Prop}
  {module : Wasm.Module} {launch : Wire.Launch}

/-! ## Steps -/

/-- The course of a step. -/
def StartStep.course : StartStep → Course (Except Fault Unit)
  | .call name args => .Call name args
  | .setGlobal name type word =>
    if type = .i32 then .Single (.stored name word) (.ok ())
    else .Idle (.error (.guestTrap name "global is not of type i32"))
  | .keepStackPointer stackPointer => .Single (.reported (.stackPointerKept stackPointer)) (.ok ())
  | .enterRunning => .Single (.recorded .running) (.ok ())
  | .missing name => .Idle (.error (.missingExport name))

/-- The course of steps up to the first that fails. -/
def StartStep.courses : List StartStep → Course (Except Fault Unit)
  | [] => .Idle (.ok ())
  | step :: rest => .Then step.course (courses rest)

theorem run_startStep_call (name : String) (args : List UInt32) :
    (Host.startStep again (.call name args)).run =
      again.call (.exported name) (args.map .word) >>= fun outcome =>
        pure (Guest.resultOf name outcome) := by
  refine (again.run_enter_bind name (args.map .word) fun _ => pure ()).trans ?_
  congr 1
  funext outcome
  cases outcome <;> rfl

namespace Activity.Takes

theorem of_startStep (step : StartStep) :
    (Host.startStep again step).run.Takes host again others step.course := by
  cases step with
  | call name args =>
      rw [run_startStep_call]
      exact .of_call name args
  | setGlobal name type word =>
      dsimp only [Host.startStep, StartStep.course]
      split
      · exact .of_deed _ fun _ _ _ => endsAmid_of_done rfl
      · exact .of_pure _
  | keepStackPointer stackPointer => exact .of_deed _ fun _ _ _ => endsAmid_of_done rfl
  | enterRunning => exact .of_deed _ fun _ _ _ => endsAmid_of_done rfl
  | missing name => exact .of_pure _

theorem of_startSteps (steps : List StartStep) :
    (Host.startSteps again steps).run.Takes host again others (StartStep.courses steps) := by
  induction steps with
  | nil => exact .of_pure _
  | cons step rest ih => exact (of_startStep step).run_bind ih

end Activity.Takes

/-! ## What the exports decide -/

namespace StartStep

theorem courses_singleton (step : StartStep) : courses [step] = step.course :=
  Course.then_idle _

/-- The record that the guest runs, and the call that lets it run. -/
inductive Entering (name : String) (args : List UInt32) : Course (Except Fault Unit) where
  | entering {outcome : Except Guest.Trap (List Wasm.Value)} :
      Entering name args [.recorded .running, .called name args outcome]
        (Guest.resultOf name outcome)

theorem courses_entering (name : String) (args : List UInt32) :
    courses [.enterRunning, .call name args] = Entering name args := by
  change Course.Then (.Single (.recorded .running) (.ok ())) (courses [.call name args]) = _
  rw [courses_singleton]
  refine Course.ext fun deeds result => ⟨fun course => ?_, fun course => ?_⟩
  · cases course with
    | stop failed => cases failed
    | go done rest =>
        cases done
        cases rest
        exact .entering
  · cases course
    exact Course.Then.go Course.Single.single Course.Call.call

theorem course_stackPointer (word : UInt32) :
    (stackPointer module word).course = Start.SetsStackPointer module word := by
  unfold stackPointer
  cases exported : module.exportsFunction Wasm.Abi.setStackPointer Wasm.Abi.wordType with
  | true =>
      refine Course.ext fun deeds result => ⟨fun course => ?_, fun course => ?_⟩
      · cases course
        exact .called exported
      · cases course with
        | called => exact .call
        | stored unset | mistyped unset | kept unset => cases exported.symm.trans unset
  | false =>
      rw [if_neg Bool.false_ne_true]
      refine Course.ext fun deeds result => ⟨fun course => ?_, fun course => ?_⟩
      · split at course
        next type global =>
          dsimp only [StartStep.course] at course
          split at course
          next same =>
            cases course
            exact .stored exported (same ▸ global)
          next other =>
            cases course
            exact .mistyped exported global other
        next immutable =>
          cases course
          exact .kept exported immutable
      · cases course with
        | called present => cases exported.symm.trans present
        | stored _ global =>
            rw [global]
            exact .single
        | mistyped _ global other =>
            rw [global]
            dsimp only [StartStep.course]
            rw [if_neg other]
            exact .idle
        | kept _ immutable =>
            split
            next type global => exact absurd global (immutable type)
            next => exact .single

theorem courses_localStorage (block : UInt32) (rest : List StartStep) :
    courses (localStorage module block ++ rest) =
      .Then (Start.SetsStorage module block) (courses rest) := by
  unfold localStorage
  cases exported : module.exportsFunction Wasm.Abi.initTls Wasm.Abi.wordType with
  | true =>
      have same : Start.SetsStorage module block = .Call Wasm.Abi.initTls [block] := by
        refine Course.ext fun deeds result => ⟨fun course => ?_, fun course => ?_⟩
        · cases course with
          | called => exact .call
          | skipped absent => cases exported.symm.trans absent
        · cases course
          exact .called exported
      rw [same]
      rfl
  | false =>
      have same : Start.SetsStorage module block = .Idle (.ok ()) := by
        refine Course.ext fun deeds result => ⟨fun course => ?_, fun course => ?_⟩
        · cases course with
          | called present => cases exported.symm.trans present
          | skipped => exact .idle
        · cases course
          exact .skipped exported
      rw [same, Course.idle_then]
      rfl

theorem courses_entry (value : UInt32) :
    courses (entry module value) = Start.Enters module value := by
  unfold entry
  cases exported : module.exportsFunction Wasm.Abi.workerEntry Wasm.Abi.wordType with
  | true =>
      rw [if_pos rfl, courses_entering]
      refine Course.ext fun deeds result => ⟨fun course => ?_, fun course => ?_⟩
      · cases course
        exact .called exported
      · cases course with
        | called => exact .entering
        | missing absent => cases exported.symm.trans absent
  | false =>
      rw [if_neg Bool.false_ne_true, courses_singleton]
      refine Course.ext fun deeds result => ⟨fun course => ?_, fun course => ?_⟩
      · cases course
        exact .missing exported
      · cases course with
        | called present => cases exported.symm.trans present
        | missing => exact .idle

/-- The steps are those that the exports decide. -/
theorem courses_sequence : courses (sequence module launch) = Start.Starts module launch := by
  unfold sequence
  cases exported : module.exportsFunction Wasm.Abi.threadStart Wasm.Abi.threadStartType with
  | true =>
      rw [if_pos rfl, courses_entering]
      refine Course.ext fun deeds result => ⟨fun course => ?_, fun course => ?_⟩
      · cases course
        exact .whole exported
      · cases course with
        | whole => exact .entering
        | single absent => cases exported.symm.trans absent
  | false =>
      rw [if_neg Bool.false_ne_true, List.cons_append, courses, courses_localStorage,
        courses_entry, course_stackPointer]
      refine Course.ext fun deeds result => ⟨.single exported, fun course => ?_⟩
      cases course with
      | whole present => cases exported.symm.trans present
      | single _ steps => exact steps

end StartStep

/-! ## The guest is entered once -/

namespace Start

variable {deeds : List Deed} {result : Except Fault Unit}

theorem preliminary_singleton {deed : Deed} (enters : deed.entersGuest = false)
    (records : deed.records = false) : Preliminary [deed] :=
  List.forall_mem_singleton.mpr ⟨enters, records⟩

theorem SetsStackPointer.preliminary {word : UInt32}
    (sets : SetsStackPointer module word deeds result) : Preliminary deeds := by
  cases sets with
  | mistyped => exact nofun
  | _ => exact preliminary_singleton rfl rfl

theorem SetsStorage.preliminary {block : UInt32} (sets : SetsStorage module block deeds result) :
    Preliminary deeds := by
  cases sets with
  | called => exact preliminary_singleton rfl rfl
  | skipped => exact nofun

/-- The guest may get the thread for itself at once. -/
theorem entersOnce_of_entry {name : String} {args : List UInt32}
    {outcome : Except Guest.Trap (List Wasm.Value)}
    (entry : Deed.entersGuest (.called name args outcome) = true) :
    EntersOnce [.recorded .running, .called name args outcome] (Guest.resultOf name outcome) := by
  rw [← List.nil_append [Deed.recorded .running, _]]
  exact .entered entry nofun

theorem Enters.entersOnce {entry : UInt32} (enters : Enters module entry deeds result) :
    EntersOnce deeds result := by
  cases enters with
  | called => exact entersOnce_of_entry rfl
  | missing => exact .never nofun

/-- What comes before does not let the guest have the thread. -/
theorem entersOnce_of_then {first second : Course (Except Fault Unit)}
    (before : ∀ {deeds result}, first deeds result → Preliminary deeds)
    (once : ∀ {deeds result}, second deeds result → EntersOnce deeds result)
    (both : Course.Then first second deeds result) : EntersOnce deeds result := by
  cases both with
  | stop failed => exact .never (before failed)
  | @go early late result done rest =>
      have preliminary := before done
      have entered := once rest
      cases entered with
      | entered entry between =>
          rw [← List.append_assoc]
          exact .entered entry (List.forall_mem_append.mpr ⟨preliminary, between⟩)
      | never all => exact .never (List.forall_mem_append.mpr ⟨preliminary, all⟩)

theorem Starts.entersOnce (starts : Starts module launch deeds result) :
    EntersOnce deeds result := by
  cases starts with
  | whole => exact entersOnce_of_entry rfl
  | single _ steps =>
      exact entersOnce_of_then SetsStackPointer.preliminary
        (entersOnce_of_then SetsStorage.preliminary Enters.entersOnce) steps

end Start

/--
Every end of the start of a worker is one of deeds that the exports and the launch record
decide, and of all such deeds there is an end.  Among them the worker is recorded as running
at most once, which is right before the guest gets the thread for itself with the last deed.
-/
theorem worker_start_sequence (host : Host) (launch : Wire.Launch) (again : Reentry)
    (others : Shared → Shared → Prop) (before after : Moment) (result : Except Fault Unit) :
    ((Host.startSteps again (StartStep.sequence host.module launch)).run.EndsAmid others before
        result after ↔
      ∃ deeds, Happen host again others before deeds after ∧
        Start.Starts host.module launch deeds result) ∧
    ∀ deeds, Start.Starts host.module launch deeds result → EntersOnce deeds result := by
  refine ⟨?_, fun deeds starts => starts.entersOnce⟩
  rw [← StartStep.courses_sequence]
  exact Activity.Takes.of_startSteps _ before result after

/-- A host whose guest is started step by step, and traps where it is entered. -/
def Host.stepping : Host :=
  .ofModule "stepping" {
    functions := [
      { name := Wasm.Abi.setStackPointer, type := Wasm.Abi.wordType },
      { name := Wasm.Abi.initTls, type := Wasm.Abi.wordType },
      { name := Wasm.Abi.workerEntry, type := Wasm.Abi.wordType, body := [.trap] }] } .exported

/-- Each step gets its own word of the launch record; the worker counts as running when the
guest traps. -/
theorem worker_start_sequence_stepping :
    ∃ deeds after,
      deeds = [
        .called Wasm.Abi.setStackPointer [64] (.ok []),
        .called Wasm.Abi.initTls [128] (.ok []),
        .recorded .running,
        .called Wasm.Abi.workerEntry [7] (.error .unreachable)] ∧
      (Host.startSteps (Host.stepping.reentry 2)
        (StartStep.sequence Host.stepping.module ⟨7, 64, 128⟩)).run.EndsAmid Eq
        (Context.new Host.stepping 5, {})
        (.error (.guestTrap Wasm.Abi.workerEntry Guest.Trap.unreachable.text)) after ∧
      after.2.pool.phase? 5 = some .running ∧
      EntersOnce deeds
        (.error (.guestTrap Wasm.Abi.workerEntry Guest.Trap.unreachable.text)) := by
  have starts : Start.Starts Host.stepping.module ⟨7, 64, 128⟩
      ([.called Wasm.Abi.setStackPointer [64] (.ok [])] ++
        ([.called Wasm.Abi.initTls [128] (.ok [])] ++
          [.recorded .running, .called Wasm.Abi.workerEntry [7] (.error .unreachable)]))
      (.error (.guestTrap Wasm.Abi.workerEntry Guest.Trap.unreachable.text)) :=
    .single rfl (.go (.called rfl) (.go (.called rfl) (.called rfl)))
  obtain ⟨ends, once⟩ := worker_start_sequence Host.stepping ⟨7, 64, 128⟩
    (Host.stepping.reentry 2) Eq (Context.new Host.stepping 5, {})
    (Context.new Host.stepping 5, { pool := Pool.setPhase {} 5 .running })
    (.error (.guestTrap Wasm.Abi.workerEntry Guest.Trap.unreachable.text))
  refine ⟨_, _, rfl, ends.mpr ⟨_, ?_, starts⟩, rfl, once _ starts⟩
  exact .cons (endsAmid_of_done rfl |>.mpr ⟨rfl, rfl⟩) <|
    .cons (endsAmid_of_done rfl |>.mpr ⟨rfl, rfl⟩) <| .cons rfl <|
    .cons (endsAmid_of_done rfl |>.mpr ⟨rfl, rfl⟩) <| .nil _

end WasmBridge
