import WasmBridge.Context.Startup
import WasmBridge.Proofs.Context.Confinement

/-!
# Serving keeps to the instance

Code of a guest and the routing of a message are written for any way of entering the
context again.  Whatever that way is, they are made of steps of the context's own that keep
to the instance, of waiting, and of calls and messages that enter the context again; nothing
else happens between those.  Only code of a guest waits and sends messages.
-/

namespace WasmBridge

open Activity

variable {host : Host} {ofGuest : Prop} {allows : Context.Event → Prop} {α β ε δ : Type}

/-! ## What programs may do -/

/-- What a request does to its context is allowed. -/
def Request.Within (allows : Context.Event → Prop) : Request → Prop
  | .insert value => ∀ answer, allows (.table (.inserted value answer))
  | .release handle => ∀ answer, allows (.table (.released handle answer))
  | _ => True

namespace Program

/-- What a program does to its context is allowed. -/
def Within (allows : Context.Event → Prop) : Program α → Prop
  | answer _ => True
  | fail _ => True
  | request asked next => asked.Within allows ∧ ∀ response, Within allows (next response)

theorem within_of_table (all : ∀ event, allows (.table event)) (program : Program α) :
    program.Within allows := by
  induction program with
  | answer value => trivial
  | fail failure => trivial
  | request asked next ih =>
      refine ⟨?_, ih⟩
      cases asked with
      | insert value => exact fun _ => all _
      | release handle => exact fun _ => all _
      | _ => trivial

theorem Within.bind {program : Program α} {next : α → Program β}
    (first : program.Within allows) (rest : ∀ value, (next value).Within allows) :
    (program >>= next).Within allows := by
  induction program with
  | answer value => exact rest value
  | fail failure => trivial
  | request asked later ih => exact ⟨first.1, fun response => ih response (first.2 response)⟩

theorem within_ofExcept (result : Except Fault α) : (ofExcept result).Within allows := by
  cases result <;> trivial

end Program

/-- The message is for the control library and gives a command. -/
structure Wire.Envelope.Commands (envelope : Wire.Envelope) (command : Wire.ControlCommand) :
    Prop where
  control : envelope.isControl
  addressed : Wire.ControlCommand.ofWord envelope.command = .ok command

/-- The bytes of a module are put into the memory up to the first that are out of bounds. -/
theorem Host.putSegments_atOnce (segments : List Wasm.Segment) (before : Moment) :
    ∃ answer after, (putSegments segments).run.EndsAtOnce before answer after ∧
      before.Rewrites after ∧
      ∀ fault, answer = .error fault →
        fault = instantiationFault before.1.id Guest.Trap.outOfBounds.text := by
  induction segments generalizing before with
  | nil => exact ⟨_, before, .run_pure (), .same, nofun⟩
  | cons segment rest ih =>
      have got : (get : Activity Context).EndsAtOnce before before.1 before := rfl
      have reached : EndsAtOnce (liftM memory? : Attempt (Option LinearMemory)).run before
          (.ok before.memory?) before := .run_lift (memory?_atOnce before)
      have outside (fault : Fault) (same : Except.error
          (instantiationFault before.1.id Guest.Trap.outOfBounds.text) =
            (.error fault : Except Fault Unit)) :
          fault = instantiationFault before.1.id Guest.Trap.outOfBounds.text := by
        cases same
        rfl
      cases found : before.memory? with
      | none =>
          rw [found] at reached
          exact ⟨_, before, .run_bind (.run_lift got) (.run_bind reached (.of_throw _)), .same,
            outside⟩
      | some memory =>
          rw [found] at reached
          cases fits : memory.fits segment.address segment.bytes.length with
          | false =>
              refine ⟨_, before, .run_bind (.run_lift got) (.run_bind reached ?_), .same, outside⟩
              dsimp only
              rw [if_neg (by simp [fits])]
              exact .of_throw _
          | true =>
              obtain ⟨answer, after, ends, rewrites, faults⟩ :=
                ih (before.withMemory (memory.put segment.address segment.bytes))
              refine ⟨answer, after, .run_bind (.run_lift got) (.run_bind reached ?_),
                .trans (.memory found (.put memory _ _)) rewrites, ?_⟩
              · dsimp only
                rw [if_pos fits]
                exact .run_bind (.run_lift (setMemory_atOnce before _)) ends
              · rw [(before.aside_withMemory _).number] at faults
                exact faults

namespace Confined

/-! ## Entering the guest -/

theorem of_enter (name : String) (args : List Wasm.Value) :
    Confined host ofGuest allows fun again => (again.enter name args).run := by
  refine (Confined.call (.exported name) args).run_lift.run_bind fun outcome => ?_
  cases outcome with
  | ok results => exact run_pure _
  | error trap => exact of_throw _

theorem of_writeBytes (bytes : Bytes) :
    Confined host ofGuest allows fun again => (again.writeBytes bytes).run := by
  refine of_bridged.run_bind fun ⟨bridge, memory⟩ => ?_
  dsimp only
  split
  · exact of_throw _
  · split
    · exact of_throw _
    · refine run_bind ((of_enter _ _).run_bind fun results => run_pure _) fun offset => ?_
      exact (of_write offset bytes).run_bind fun _ => run_pure _

/-! ## Routing -/

theorem of_respond (request : Request) (within : request.Within allows) :
    Confined host ofGuest allows fun again => host.respond again request := by
  cases request with
  | contextId => exact of_get.bind fun context => of_pure context.id
  | lookup handle => exact of_lookup handle
  | insert value => exact of_insert value within
  | release handle => exact of_release handle within
  | liveCount => exact of_get.bind fun context => of_pure context.objects.length
  | globalObject => exact of_pure host.globalObject
  | property value name => exact of_heap fun heap => heap.property? name value
  | setProperty id name value => exact of_changeShared fun _ => ⟨_, _, rfl, .heap _, rfl⟩
  | propertyCount id => exact of_heap fun heap => (heap.names id).length
  | textOf value => exact of_heap fun heap => heap.toText value
  | apply function this args => exact of_changeShared fun _ => ⟨_, _, rfl, .heap _, rfl⟩
  | memorySize => exact of_bridged.run_bind fun _ => run_pure _
  | view offset length => exact of_view offset length
  | write offset bytes => exact of_write offset bytes
  | readText offset length => exact of_bridged.run_bind fun _ => of_except _
  | writeBytes bytes => exact of_writeBytes bytes
  | libraryCount => exact of_get.bind fun context => of_pure context.libraries.length
  | availableThreads => exact of_pure host.availableThreads
  | route envelope => exact .route envelope
  | note remark => exact of_changeShared fun _ => ⟨_, _, rfl, .journal _, rfl⟩

/-- The program of a library is carried out request by request. -/
theorem of_run (program : Program α) (within : program.Within allows) :
    Confined host ofGuest allows fun again => host.run again program := by
  induction program with
  | answer value => exact of_pure (Except.ok value)
  | fail failure => exact of_pure (Except.error failure)
  | request asked next ih =>
      exact (of_respond asked within.1).bind fun response => ih response (within.2 response)

theorem of_serve (library : UInt32) (program : Program UInt32) (within : program.Within allows) :
    Confined host ofGuest allows fun again => (host.serve again library program).run := by
  simp only [Host.serve_eq]
  exact (of_run program within).run_adapt

theorem of_payload (envelope : Wire.Envelope) :
    Confined host ofGuest allows fun _ => (Host.payload envelope).run := by
  unfold Host.payload
  split
  · exact run_pure _
  · exact of_view _ _

theorem of_payloadText (envelope : Wire.Envelope) :
    Confined host ofGuest allows fun _ => (Host.payloadText envelope).run :=
  (of_payload envelope).run_bind fun _ => of_except _

theorem of_logPayload (envelope : Wire.Envelope) (level : Log.Level) :
    Confined host ofGuest allows fun _ => (Host.logPayload envelope level).run := by
  refine (of_payloadText envelope).run_bind fun text => ?_
  refine of_get.run_lift.run_bind fun context => ?_
  exact (of_report rfl).run_lift.run_bind fun _ => run_pure _

theorem of_exportedWord? (name : String) :
    Confined host ofGuest allows fun _ => host.exportedWord? name := by
  unfold Host.exportedWord?
  split
  · split
    · exact of_get.bind fun context => of_pure _
    · exact of_pure none
  · exact of_pure none

/-- The control library registers libraries of the catalog where it is asked for one, and
stores what properties are. -/
theorem of_control (command : Wire.ControlCommand) (envelope : Wire.Envelope)
    (registers : command = .newLibrary → ∀ name library, host.catalog.find name = .ok library →
      allows (.registered library))
    (reads : ∀ object name, (Objects.readProperty object name).Within allows) :
    Confined host ofGuest allows fun again => (host.control again command envelope).run := by
  cases command with
  | newLibrary =>
      refine (of_payloadText envelope).run_bind fun name => ?_
      refine of_except_bind fun library found => ?_
      refine (of_register library (registers rfl name library found)).run_lift.run_bind fun id => ?_
      refine of_get.run_lift.run_bind fun context => ?_
      exact (of_report rfl).run_lift.run_bind fun _ => run_pure _
  | log => exact of_logPayload envelope .info
  | logError => exact of_logPayload envelope .error
  | tlsSize => exact (of_exportedWord? _).run_lift.run_bind fun exported => run_pure _
  | tlsAlign => exact (of_exportedWord? _).run_lift.run_bind fun exported => run_pure _
  | availableThreads => exact run_pure host.availableThreads
  | spawnWorker =>
      refine (of_payload envelope).run_bind fun bytes => ?_
      refine (of_except _).run_bind fun launch => ?_
      exact (of_spawn launch).run_bind fun _ => run_pure _
  | reserved =>
      refine of_get.run_lift.run_bind fun context => ?_
      exact (of_report rfl).run_lift.run_bind fun _ => run_pure _
  | getProperty =>
      refine (of_payload envelope).run_bind fun bytes => ?_
      refine (of_except _).run_bind fun ⟨object, property⟩ => ?_
      refine run_bind (of_lookup property) fun key => ?_
      cases key with
      | string name => exact of_serve _ _ (reads object name)
      | _ => exact of_throw _

/-- Routing a message is confined, and does not wait unless it is entered again.  A message
that asks for no library registers none. -/
theorem of_route_within (envelope : Wire.Envelope) (table : ∀ event, allows (.table event))
    (registers : envelope.Commands .newLibrary → ∀ name library,
      host.catalog.find name = .ok library → allows (.registered library)) :
    Confined host ofGuest allows fun again => (host.route again envelope).run := by
  unfold Host.route
  split
  next control =>
    refine of_except_bind fun command named => ?_
    refine of_control command envelope (fun asked => registers ⟨control, asked ▸ named⟩) ?_
    exact fun _ _ => Program.within_of_table table _
  next =>
    refine of_get.run_lift.run_bind fun context => ?_
    refine (of_except _).run_bind fun library => ?_
    refine (of_payload envelope).run_bind fun bytes => ?_
    exact of_serve _ _ (Program.within_of_table table _)

theorem of_route (envelope : Wire.Envelope) :
    Confined host ofGuest (fun _ => True) fun again => (host.route again envelope).run :=
  of_route_within envelope (fun _ => trivial) fun _ _ _ _ => trivial

/-! ## Code of a guest -/

theorem of_guestMemory : Confined host ofGuest allows fun _ => Guest.memory.run :=
  of_inspection fun before => ⟨_, Guest.memory_atOnce before⟩

theorem of_load (address : UInt32) :
    Confined host ofGuest allows fun _ => (Guest.load address).run := by
  refine of_guestMemory.run_bind fun memory => ?_
  split
  · exact run_pure _
  · exact of_throw _

theorem of_store (address word : UInt32) :
    Confined host ofGuest allows fun _ => (Guest.store address word).run := by
  refine of_memory fun before => ?_
  have reached := Guest.memory_atOnce before
  cases found : before.memory? with
  | none =>
      rw [found] at reached
      exact ⟨_, before, .run_bind_error reached, .same⟩
  | some memory =>
      rw [found] at reached
      cases written : memory.putWord? address word with
      | none =>
          refine ⟨.error .outOfBounds, before, .run_bind reached ?_, .same⟩
          rw [written]
          exact .of_throw _
      | some next =>
          refine ⟨.ok (), before.withMemory next, .run_bind reached ?_,
            .memory found (.of_putWord? written)⟩
          rw [written]
          exact .run_lift (setMemory_atOnce before next)

theorem of_grow (pages : UInt32) :
    Confined host ofGuest allows fun _ => (Guest.grow pages).run := by
  refine of_memory fun before => ?_
  cases found : before.memory? with
  | none =>
      have reached := Guest.memory_atOnce before
      rw [found] at reached
      exact ⟨_, before, .run_bind_error reached, .same⟩
  | some memory =>
      refine ⟨_, _, Guest.grow_atOnce found pages, ?_⟩
      cases grown : memory.grow? pages.toNat with
      | none => exact .same
      | some result => exact .memory found (.of_grow? grown)

theorem of_guestWait (address : UInt32) :
    Confined host True allows fun _ => (Guest.wait address).run := by
  refine (of_load address).run_bind fun word => ?_
  refine of_get.run_lift.run_bind fun context => ?_
  cases context.home with
  | shared => exact (wait trivial _).run_lift
  | _ => exact (wait trivial _).run_lift

theorem of_global (name : String) : Confined host ofGuest allows fun _ => (Guest.global name).run :=
  of_get.run_lift.run_bind fun _ => run_pure _

theorem of_setGlobal (name : String) (word : UInt32) :
    Confined host ofGuest allows fun _ => (Guest.setGlobal name word).run :=
  (of_globals _).run_lift

theorem of_callStub (qualified : String) (results : List Wasm.ValueType) :
    Confined host ofGuest allows fun _ => (Guest.callStub qualified results).run := by
  refine of_get.run_lift.run_bind fun context => ?_
  exact (of_report rfl).run_lift.run_bind fun _ => of_except _

theorem of_send (library command pointer length : UInt32) :
    Confined host True allows fun again =>
      (Guest.send again library command pointer length).run :=
  (Confined.deliver trivial _).run_lift

theorem of_callImport (item : Wasm.Import) (type : Wasm.FunctionType) (args : List Wasm.Value) :
    Confined host True allows fun again => (Guest.callImport again item type args).run := by
  unfold Guest.callImport
  split
  · exact (of_send _ _ _ _).run_bind fun _ => run_pure _
  · exact of_callStub _ _

variable (module : Wasm.Module)

theorem of_callTarget (target : String) (args : List Wasm.Value) :
    Confined host True allows fun again => (Guest.callTarget module again target args).run := by
  unfold Guest.callTarget
  split
  · exact .call _ _
  · split
    · exact of_callImport _ _ _
    · exact of_throw _

theorem of_probe (target : String) :
    Confined host True allows fun again => (Guest.probe module again target).run := by
  unfold Guest.probe
  split
  · exact of_callImport _ _ _
  · exact of_throw _

variable (args : List Wasm.Value)

mutual

theorem of_eval : ∀ expr : Wasm.Expr,
    Confined host True allows fun again => (Guest.eval module again args expr).run
  | .word value => run_pure value
  | .parameter _ => run_pure _
  | .global name => of_global name
  | .load address => (of_eval address).run_bind fun address => of_load address
  | .add left right =>
    (of_eval left).run_bind fun _ => (of_eval right).run_bind fun _ => run_pure _
  | .grow pages => (of_eval pages).run_bind fun pages => of_grow pages
  | .send library command pointer length =>
    (of_eval library).run_bind fun _ => (of_eval command).run_bind fun _ =>
      (of_eval pointer).run_bind fun _ => (of_eval length).run_bind fun _ => of_send _ _ _ _
  | .call target operands =>
    (of_evalAll operands).run_bind fun _ => (of_callTarget module target _).run_bind fun _ =>
      run_pure _
  | .probe target => (of_probe module target).run_bind fun _ => run_pure _

theorem of_evalAll : ∀ exprs : List Wasm.Expr,
    Confined host True allows fun again => (Guest.evalAll module again args exprs).run
  | [] => run_pure []
  | expr :: rest =>
    (of_eval expr).run_bind fun _ => (of_evalAll rest).run_bind fun _ => run_pure _

end

mutual

theorem of_exec : ∀ statement : Wasm.Statement,
    Confined host True allows fun again => (Guest.exec module again args statement).run
  | .store address value =>
    (of_eval module args address).run_bind fun _ => (of_eval module args value).run_bind fun _ =>
      of_store _ _
  | .setGlobal name value => (of_eval module args value).run_bind fun _ => of_setGlobal name _
  | .compute value => (of_eval module args value).run_bind fun _ => run_pure ()
  | .run target operands =>
    (of_evalAll module args operands).run_bind fun _ =>
      (of_callTarget module target _).run_bind fun _ => run_pure ()
  | .trap => of_throw _
  | .when condition block => by
    refine (of_eval module args condition).run_bind fun word => ?_
    split
    · exact of_execAll block
    · exact run_pure ()
  | .wait address => (of_eval module args address).run_bind fun _ => of_guestWait _

theorem of_execAll : ∀ statements : List Wasm.Statement,
    Confined host True allows fun again => (Guest.execAll module again args statements).run
  | [] => run_pure ()
  | statement :: rest => (of_exec statement).run_bind fun _ => of_execAll rest

end

theorem of_answers (types : List Wasm.ValueType) (exprs : List Wasm.Expr) :
    Confined host True allows fun again =>
      (Guest.answers module again args types exprs).run := by
  induction types generalizing exprs with
  | nil => exact run_pure []
  | cons type types ih =>
      cases exprs with
      | nil => exact (ih []).run_bind fun _ => run_pure _
      | cons expr exprs =>
          refine (of_eval module args expr).run_bind fun word => ?_
          exact (ih exprs).run_bind fun _ => run_pure _

/-- A function of a guest is confined; its code may wait and send messages. -/
theorem of_guestCall (designator : Wasm.Designator) :
    Confined host True allows fun again => (Guest.call module again args designator).run := by
  unfold Guest.call
  split
  · exact (of_execAll module args _).run_bind fun _ => of_answers module args _ _
  · exact of_throw _

/-! ## Starting contexts -/

theorem of_linker (stubs : Bool) : Confined host ofGuest allows fun _ => (host.linker stubs).run :=
  of_shared.run_lift.run_bind fun _ => of_except _

/-- The bytes of a module are put into the memory, segment by segment, without waiting. -/
theorem of_putSegments (segments : List Wasm.Segment) :
    Confined host ofGuest allows fun _ => (Host.putSegments segments).run := by
  refine of_memory fun before => ?_
  obtain ⟨answer, after, ends, rewrites, -⟩ := Host.putSegments_atOnce segments before
  exact ⟨answer, after, ends, rewrites⟩

theorem of_runStart : Confined host ofGuest allows fun again => (host.runStart again).run := by
  unfold Host.runStart
  split
  · exact run_pure ()
  · refine (Confined.call _ _).run_lift.run_bind fun outcome => ?_
    cases outcome with
    | ok results => exact run_pure ()
    | error trap => exact of_get.run_lift.run_bind fun context => of_throw _

theorem of_startStep {step : StartStep} (other : step ≠ .enterRunning) :
    Confined host ofGuest allows fun again => (Host.startStep again step).run := by
  cases step with
  | call name args => exact (of_enter name _).run_bind fun _ => run_pure ()
  | setGlobal name type word =>
      dsimp only [Host.startStep]
      split
      · exact (of_globals _).run_lift
      · exact of_throw _
  | keepStackPointer stackPointer => exact run_lift (of_report rfl)
  | enterRunning => exact absurd rfl other
  | missing name => exact of_throw _

theorem of_startSteps {steps : List StartStep} (others : ∀ step ∈ steps, step ≠ .enterRunning) :
    Confined host ofGuest allows fun again => (Host.startSteps again steps).run := by
  induction steps with
  | nil => exact run_pure ()
  | cons step rest ih =>
      refine (of_startStep (others step List.mem_cons_self)).run_bind fun _ => ?_
      exact ih fun later member => others later (List.mem_cons_of_mem _ member)

theorem of_enterWithWords (name : String) (args : List UInt32) :
    Confined host ofGuest allows fun again => (again.enterWithWords name args).run :=
  (of_enter name _).run_bind fun _ => run_pure _

theorem of_initMainStorage :
    Confined host ofGuest allows fun again => (host.initMainStorage again).run := by
  unfold Host.initMainStorage
  split
  · refine (of_enterWithWords _ _).run_bind fun block => ?_
    exact (of_enter _ _).run_bind fun _ => run_pure ()
  · exact run_pure ()

/-- What a main context does once its guest may begin keeps to the instance. -/
theorem of_callMain : Confined host ofGuest allows fun again => (host.callMain again).run := by
  unfold Host.callMain
  split
  · exact of_throw _
  · refine (of_except _).run_bind fun args => ?_
    exact (of_enter _ _).run_bind fun _ => run_pure ()

end Confined

end WasmBridge
