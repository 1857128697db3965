import WasmBridge.Proofs.Context.Fixtures
import WasmBridge.Proofs.Context.Requests

/-!
# Messages that fail

A message to the control library, to a number that names no library, or to the objects
library either is served or leaves everything as it was.  Two commands may leave more:
a call keeps what the function did to the heap, and reading a text keeps what the guest
did to make room for it.
-/

namespace WasmBridge

open Activity

variable {before after : Moment} {bounds : Moment → Prop}

/-- What a message that failed may leave. -/
inductive Residue (again : Reentry) (envelope : Wire.Envelope) (before : Moment) :
    Moment → Prop where
  | nothing : Residue again envelope before before
  /-- The heap as the function of a call left it. -/
  | called {payload : Bytes} {function this : Handle} {args : List Handle} {id : FunctionId}
      {receiver : HostValue} {values : List HostValue}
      (registered : before.1.libraries.resolve envelope.library = .ok Objects.library)
      (command : Wire.ObjectCommand.ofWord envelope.command = .ok .call)
      (copied : (Host.payload envelope).run.Ends before (.ok payload) before)
      (words : Wire.decodeWords payload "call" = .ok (function :: this :: args))
      (target : before.1.objects.get function = .ok (.function id))
      (receives : before.1.objects.get this = .ok receiver)
      (given : args.mapM before.1.objects.get = .ok values) :
      Residue again envelope before (before.applied id receiver values)
  /-- What the guest did when it was asked for room for a text. -/
  | reserved {payload : Bytes} {handle : Handle} {value : HostValue}
      {outcome : Except Guest.Trap (List Wasm.Value)} {after : Moment}
      (registered : before.1.libraries.resolve envelope.library = .ok Objects.library)
      (command : Wire.ObjectCommand.ofWord envelope.command = .ok .readString)
      (copied : (Host.payload envelope).run.Ends before (.ok payload) before)
      (word : Wire.decodeOne payload "read string" = .ok handle)
      (found : before.1.objects.get handle = .ok value)
      (entered : (again.call (.exported Wasm.Abi.reserveSpace)
        [.word (UInt32.ofNat (Text.Utf8.encode (before.2.heap.toText value)).length)]).Ends
          before outcome after) :
      Residue again envelope before after

namespace Host

variable {host : Host} {again : Reentry}

/-! ## Steps of a program -/

theorem inspects_ofExcept {α : Type} (result : Except Fault α) :
    (host.perform again (Program.ofExcept result)).run.Inspects := by
  rw [perform_ofExcept]
  exact .of_except _

theorem eq_ok_of_ends_ofExcept {α : Type} {result : Except Fault α} {value : α}
    (ends : (host.perform again (Program.ofExcept result)).run.Ends before (.ok value) after) :
    result = .ok value := by
  rw [perform_ofExcept] at ends
  obtain ⟨equal, -⟩ := ends_pure_iff.mp ends
  cases result with
  | ok found =>
      cases equal
      rfl
  | error fault => cases equal

theorem inspects_performLookup (handle : Handle) :
    (host.perform again (Program.lookup handle)).run.Inspects := by
  rw [perform_lookup]
  exact (Attempt.inspects_lookup handle).run_adapt

theorem get_of_ends_lookup {handle : Handle} {value : HostValue}
    (ends : (host.perform again (Program.lookup handle)).run.Ends before (.ok value) after) :
    before.1.objects.get handle = .ok value := by
  rw [perform_lookup] at ends
  obtain ⟨result, outcome, early⟩ := ends_run_adapt_iff.mp ends
  obtain ⟨found, -⟩ := Attempt.ends_lookup_iff.mp early
  cases result with
  | ok value =>
      cases outcome
      exact found.symm
  | error fault => cases outcome

theorem inspects_lookupAll (handles : List Handle) :
    (host.perform again (Objects.lookupAll handles)).run.Inspects := by
  induction handles with
  | nil => exact .of_pure _
  | cons handle rest ih =>
      rw [Objects.lookupAll, perform_bind]
      refine (inspects_performLookup handle).run_bind fun value => ?_
      rw [perform_bind]
      exact ih.run_bind fun values => .of_pure _

theorem mapM_of_ends_lookupAll {handles : List Handle} {values : List HostValue}
    (ends : (host.perform again (Objects.lookupAll handles)).run.Ends before (.ok values) after) :
    handles.mapM before.1.objects.get = .ok values := by
  induction handles generalizing values after with
  | nil =>
      obtain ⟨equal, -⟩ := ends_pure_iff.mp ends
      cases equal
      rfl
  | cons handle rest ih =>
      rw [Objects.lookupAll, perform_bind] at ends
      rcases ends_run_bind_iff.mp ends with ⟨error, -, impossible⟩ | ⟨value, middle, early, late⟩
      · cases impossible
      · obtain rfl : middle = before := inspects_performLookup handle _ _ _ early
        rw [perform_bind] at late
        rcases ends_run_bind_iff.mp late with ⟨error, -, impossible⟩ | ⟨tail, final, next, last⟩
        · cases impossible
        · obtain ⟨equal, -⟩ := ends_pure_iff.mp last
          cases equal
          rw [List.mapM_cons, get_of_ends_lookup early, ih next]
          rfl

theorem inspects_ask {asked : Request} (inspects : (host.respond again asked).Inspects) :
    (host.perform again (Program.ask asked)).run.Inspects := by
  rw [perform_ask]
  exact inspects.run_lift

theorem textOf_of_ends {value : HostValue} {text : String}
    (ends : (host.perform again (Program.ask (.textOf value))).run.Ends before (.ok text) after) :
    text = before.2.heap.toText value := by
  rw [perform_ask] at ends
  obtain ⟨answer, equal, early⟩ := ends_run_lift_iff.mp ends
  cases equal
  exact ((ends_of_done rfl).mp early).1

theorem failsInto_performInsert (value : HostValue) (here : bounds before) :
    FailsInto bounds before (host.perform again (Program.insert value)) := by
  rw [perform_insert]
  exact (Attempt.failsInto_insert value here).adapt

theorem failsInto_store (value : HostValue) (here : bounds before) :
    FailsInto bounds before (host.perform again (Objects.store value)) := by
  unfold Objects.store
  split
  · exact .of_succeeds (.of_pure _)
  · exact failsInto_performInsert value here

theorem failsInto_readProperty (object : Handle) (name : String) (here : bounds before) :
    FailsInto bounds before (host.perform again (Objects.readProperty object name)) := by
  refine failsInto_perform_bind here (inspects_performLookup object) fun value _ => ?_
  refine failsInto_perform_bind here (inspects_ask (inspects_heap _)) fun found _ => ?_
  cases found with
  | some property => exact failsInto_store property here
  | none => exact .of_succeeds (.of_pure _)

/-! ## Commands of the objects library -/

theorem failsInto_call (function this : Handle) (args : List Handle) (here : bounds before)
    (called : ∀ id receiver values, before.1.objects.get function = .ok (.function id) →
      before.1.objects.get this = .ok receiver → args.mapM before.1.objects.get = .ok values →
      bounds (before.applied id receiver values)) :
    FailsInto bounds before (host.perform again (Objects.call function this args)) := by
  refine failsInto_perform_bind here (inspects_performLookup function) fun target targeted => ?_
  refine failsInto_perform_bind here (inspects_performLookup this) fun receiver received => ?_
  refine failsInto_perform_bind here (inspects_lookupAll args) fun values given => ?_
  have found := get_of_ends_lookup targeted
  cases target with
  | function id =>
      have applied := called id receiver values found (get_of_ends_lookup received)
        (mapM_of_ends_lookupAll given)
      dsimp only
      rw [perform_bind]
      refine .bind_within ?_ fun answer middle there => failsInto_store answer there
      intro result after ends
      rw [ends_apply ends]
      exact applied
  | _ => exact .of_inspects here (.of_throw _)

theorem failsInto_readString (payload : Bytes) (here : bounds before)
    (reserved : ∀ handle value outcome after,
      Wire.decodeOne payload "read string" = .ok handle →
      before.1.objects.get handle = .ok value →
      (again.call (.exported Wasm.Abi.reserveSpace)
        [.word (UInt32.ofNat (Text.Utf8.encode (before.2.heap.toText value)).length)]).Ends
          before outcome after → bounds after) :
    FailsInto bounds before
      (host.perform again (Objects.serveCommand .readString payload)) := by
  refine failsInto_perform_bind here (inspects_ofExcept _) fun handle decoded => ?_
  refine failsInto_perform_bind here (inspects_performLookup handle) fun value found => ?_
  refine failsInto_perform_bind here (inspects_ask (inspects_heap _)) fun text read => ?_
  obtain rfl : text = before.2.heap.toText value := textOf_of_ends read
  rw [perform_bind, perform_writeText]
  refine FailsInto.bind_succeeds (FailsInto.adapt ?_) fun _ => .of_pure _
  refine again.failsInto_writeBytes _ here fun outcome after entered => ?_
  exact reserved handle value outcome after (eq_ok_of_ends_ofExcept decoded)
    (get_of_ends_lookup found) entered

/-- A command that stores or reads leaves everything as it was when it fails. -/
theorem failsInto_serveCommand (command : Wire.ObjectCommand) (payload : Bytes)
    (here : bounds before) (calls : command ≠ .call) (reads : command ≠ .readString) :
    FailsInto bounds before (host.perform again (Objects.serveCommand command payload)) := by
  cases command with
  | newString =>
      refine failsInto_perform_bind here (inspects_ofExcept _) fun text _ => ?_
      exact failsInto_performInsert _ here
  | release =>
      refine failsInto_perform_bind here (inspects_ofExcept _) fun handle _ => ?_
      rw [perform_bind, perform_ask]
      exact .of_succeeds ((Succeeds.of_lift _).bind fun _ => .of_pure _)
  | call => exact absurd rfl calls
  | readString => exact absurd rfl reads
  | numberValue =>
      refine failsInto_perform_bind here (inspects_ofExcept _) fun handle _ => ?_
      refine failsInto_perform_bind here (inspects_performLookup handle) fun value _ => ?_
      cases value.asWord? with
      | some word => exact .of_succeeds (.of_pure _)
      | none => exact .of_inspects here (.of_throw _)
  | newBytes => exact failsInto_performInsert _ here
  | getNamed =>
      rw [Objects.serveCommand]
      split
      · exact .of_inspects here (.of_throw _)
      · refine failsInto_perform_bind here (inspects_ofExcept _) fun object _ => ?_
        refine failsInto_perform_bind here (inspects_ofExcept _) fun name _ => ?_
        exact failsInto_readProperty object name here

/-! ## Commands of the control library -/

theorem failsInto_logPayload (envelope : Wire.Envelope) (level : Log.Level)
    (here : bounds before) : FailsInto bounds before (logPayload envelope level) := by
  refine .bind here (inspects_payloadText envelope) fun text _ => ?_
  exact .of_succeeds ((Succeeds.of_lift _).bind fun _ => (Succeeds.of_lift _).bind fun _ =>
    .of_pure _)

theorem failsInto_control (command : Wire.ControlCommand) (envelope : Wire.Envelope)
    (here : bounds before) : FailsInto bounds before (host.control again command envelope) := by
  cases command with
  | newLibrary =>
      refine .bind here (inspects_payloadText envelope) fun name _ => ?_
      refine .bind here (.of_except _) fun library _ => ?_
      exact .of_succeeds ((Succeeds.of_lift _).bind fun _ => (Succeeds.of_lift _).bind fun _ =>
        (Succeeds.of_lift _).bind fun _ => .of_pure _)
  | log => exact failsInto_logPayload envelope .info here
  | logError => exact failsInto_logPayload envelope .error here
  | tlsSize => exact .of_succeeds ((Succeeds.of_lift _).bind fun _ => .of_pure _)
  | tlsAlign => exact .of_succeeds ((Succeeds.of_lift _).bind fun _ => .of_pure _)
  | availableThreads => exact .of_succeeds (.of_pure _)
  | spawnWorker =>
      refine .bind here (inspects_payload envelope) fun bytes _ => ?_
      refine .bind here (.of_except _) fun launch _ => ?_
      exact (failsInto_spawn launch here).bind_succeeds fun _ => .of_pure _
  | reserved =>
      exact .of_succeeds ((Succeeds.of_lift _).bind fun _ => (Succeeds.of_lift _).bind fun _ =>
        .of_pure _)
  | getProperty =>
      refine .bind here (inspects_payload envelope) fun bytes _ => ?_
      refine .bind here (.of_except _) fun ⟨object, property⟩ _ => ?_
      refine .bind here (Attempt.inspects_lookup property) fun key _ => ?_
      cases key with
      | string name =>
          dsimp only
          rw [serve_eq]
          exact (failsInto_readProperty object name here).adapt
      | _ => exact .of_inspects here (.of_throw _)

/-! ## Messages -/

theorem failsInto_objects {envelope : Wire.Envelope} {payload : Bytes}
    (registered : before.1.libraries.resolve envelope.library = .ok Objects.library)
    (copied : (Host.payload envelope).run.Ends before (.ok payload) before) :
    FailsInto (Residue again envelope before) before
      (host.perform again (Objects.library.serve envelope.command payload)) := by
  refine failsInto_perform_bind .nothing (inspects_ofExcept _) fun command decoded => ?_
  have named := eq_ok_of_ends_ofExcept decoded
  by_cases calls : command = .call
  · subst calls
    refine failsInto_perform_bind .nothing (inspects_ofExcept _) fun words split => ?_
    have divided := eq_ok_of_ends_ofExcept split
    match words with
    | [] | [_] => exact .of_inspects .nothing (.of_throw _)
    | function :: this :: args =>
        refine failsInto_call function this args .nothing fun id receiver values => ?_
        exact .called registered named copied divided
  · by_cases reads : command = .readString
    · subst reads
      refine failsInto_readString payload .nothing fun handle value outcome after => ?_
      exact .reserved registered named copied
    · exact failsInto_serveCommand command payload .nothing calls reads

/-- A message to the control library, to a number without a library, or to the objects
library that fails leaves its residue and nothing else. -/
theorem residue_of_route {envelope : Wire.Envelope} {fault : Fault}
    (addressed : envelope.isControl = true ∨
      (∃ unknown, before.1.libraries.resolve envelope.library = .error unknown) ∨
      before.1.libraries.resolve envelope.library = .ok Objects.library)
    (failed : (host.route again envelope).run.Ends before (.error fault) after) :
    Residue again envelope before after := by
  have bounded : FailsInto (Residue again envelope before) before
      (host.route again envelope) := by
    unfold route
    split
    case isTrue =>
      refine .bind .nothing (.of_except _) fun command _ => ?_
      exact failsInto_control command envelope .nothing
    case isFalse other =>
      refine .bind .nothing Inspects.of_get.run_lift fun context got => ?_
      obtain ⟨found, same, read⟩ := ends_run_lift_iff.mp got
      obtain ⟨rfl, -⟩ := ends_get_iff.mp read
      cases same
      refine .bind .nothing (.of_except _) fun library resolved => ?_
      have registered : before.1.libraries.resolve envelope.library = .ok library :=
        (ends_pure_iff.mp resolved).1.symm
      refine .bind .nothing (inspects_payload envelope) fun payload copied => ?_
      rw [serve_eq]
      obtain rfl : library = Objects.library := by
        rcases addressed with control | ⟨unknown, unregistered⟩ | objects
        · exact absurd control other
        · rw [registered] at unregistered
          cases unregistered
        · rw [registered] at objects
          exact Except.ok.inj objects
      exact (failsInto_objects registered copied).adapt
  exact bounded fault after failed

/-- A function that sets a property of the global object and gives up. -/
def touchAndGiveUp : HostFunction := fun _ _ heap =>
  (.error "gave up", heap.set 0 "touched" (.bool true))

/-- A context whose handle 2 is a function and whose memory begins with that handle. -/
def touching : Moment :=
  .withHeap (.withLibrary (.withValue (.owning bare (.page 1 [2]) false) (.function 0))
    Objects.library) ⟨#[[]]⟩ #[touchAndGiveUp]

/-- A function that gives up keeps what it did before. -/
theorem residue_of_route_touching :
    (bare.route trapping ⟨2, 2, 0, 8⟩).run.Ends touching (.error (.libraryPanic 2 "gave up"))
        (touching.applied 0 .null []) ∧
      Residue trapping ⟨2, 2, 0, 8⟩ touching (touching.applied 0 .null []) := by
  have failed : (bare.route trapping ⟨2, 2, 0, 8⟩).run.Ends touching
      (.error (.libraryPanic 2 "gave up")) (touching.applied 0 .null []) :=
    (ends_of_done rfl).mpr ⟨rfl, rfl⟩
  exact ⟨failed, residue_of_route (.inr (.inr rfl)) failed⟩

end Host

end WasmBridge
