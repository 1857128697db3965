import WasmBridge.Proofs.Library.Properties
import WasmBridge.Proofs.Wire.Lengths

/-!
# Calls of host functions

A guest calls a host function by handles: that of the function, that of the receiver and those
of the arguments.  A program that is watched does what it does anyway, and the calls that it
makes are listed.  A message for a call makes the one call that its payload asks for, or none.
-/

namespace WasmBridge

open Activity

variable {host : Host} {again : Reentry} {before middle after : Moment} {envelope : Wire.Envelope}
  {payload : Bytes} {α β : Type}

/-! ## Watching a program -/

/-- A call of a host function. -/
structure Invocation where
  function : FunctionId
  this : HostValue
  args : List HostValue

/-- The calls that a request makes. -/
def Request.invocations : Request → List Invocation
  | .apply function this args => [⟨function, this, args⟩]
  | _ => []

namespace Host

/-- Run the program of a library and list the calls that it makes, in order. -/
def watch (host : Host) (again : Reentry) :
    Program α → Activity (List Invocation × Except Failure α)
  | .answer value => return ([], .ok value)
  | .fail failure => return ([], .error failure)
  | .request request next => do
    let response ← host.respond again request
    let (calls, result) ← watch host again (next response)
    return (request.invocations ++ calls, result)

/-- To watch a program is to run it. -/
theorem run_eq_watch (program : Program α) :
    host.run again program = Prod.snd <$> host.watch again program := by
  induction program with
  | answer value => rfl
  | fail failure => rfl
  | request asked next ih =>
      simp only [run, watch, ih, map_eq_pure_bind, bind_assoc, pure_bind]

theorem watch_bind (program : Program α) (next : α → Program β) :
    host.watch again (program >>= next) =
      host.watch again program >>= fun (early, result) =>
        match result with
        | .ok value => do
          let (late, last) ← host.watch again (next value)
          return (early ++ late, last)
        | .error failure => return (early, .error failure) := by
  induction program with
  | answer value => exact (bind_pure (host.watch again (next value))).symm
  | fail failure => rfl
  | request asked rest ih =>
      change (host.respond again asked >>= fun response =>
        host.watch again (rest response >>= next) >>= fun (calls, result) =>
          pure (asked.invocations ++ calls, result)) = _
      simp only [watch, ih, bind_assoc, pure_bind]
      congr 1
      funext response
      congr 1
      funext ⟨early, result⟩
      cases result with
      | ok value => simp only [bind_assoc, pure_bind, List.append_assoc]
      | error failure => rw [pure_bind]

end Host

namespace Program

/-- A program that calls no function. -/
def Quiet : Program α → Prop
  | answer _ => True
  | fail _ => True
  | request asked next => asked.invocations = [] ∧ ∀ response, Quiet (next response)

theorem quiet_ofExcept (result : Except Fault α) : (ofExcept result).Quiet := by
  cases result <;> trivial

theorem Quiet.bind {program : Program α} {next : α → Program β} (first : program.Quiet)
    (rest : ∀ value, (next value).Quiet) : (program >>= next).Quiet := by
  induction program with
  | answer value => exact rest value
  | fail failure => trivial
  | request asked later ih => exact ⟨first.1, fun response => ih response (first.2 response)⟩

theorem quiet_lookup (handle : Handle) : (lookup handle).Quiet :=
  ⟨rfl, quiet_ofExcept⟩

theorem quiet_lookupAll (handles : List Handle) : (Objects.lookupAll handles).Quiet := by
  induction handles with
  | nil => trivial
  | cons handle rest ih =>
      exact (quiet_lookup handle).bind fun value => ih.bind fun values => trivial

theorem quiet_store (value : HostValue) : (Objects.store value).Quiet := by
  cases value with
  | null => trivial
  | _ => exact ⟨rfl, quiet_ofExcept⟩

end Program

namespace Host

theorem watch_of_quiet {program : Program α} (quiet : program.Quiet) :
    host.watch again program = (fun result => ([], result)) <$> host.run again program := by
  induction program with
  | answer value => rfl
  | fail failure => rfl
  | request asked next ih =>
      simp only [run, watch, quiet.1, fun response => ih response (quiet.2 response),
        map_eq_pure_bind, bind_assoc, pure_bind, List.nil_append]

/-- A program is carried out at a moment with calls, a result and an end of which something is
known. -/
def Watches (host : Host) (again : Reentry) (program : Program α) (before : Moment)
    (known : List Invocation → Except Failure α → Moment → Prop) : Prop :=
  ∃ calls result after,
    (host.watch again program).EndsAtOnce before (calls, result) after ∧ known calls result after

/-- What is watched is run. -/
theorem run_atOnce_of_watch {program : Program α} {calls : List Invocation}
    {result : Except Failure α}
    (watched : (host.watch again program).EndsAtOnce before (calls, result) after) :
    (host.run again program).EndsAtOnce before result after := by
  rw [run_eq_watch, map_eq_pure_bind]
  exact watched.bind rfl

namespace Watches

variable {known : List Invocation → Except Failure β → Moment → Prop} {program : Program α}
  {next : α → Program β}

theorem of_refuse {fault : Fault} (holds : known [] (.error (.fault fault)) before) :
    host.Watches again (Program.refuse fault) before known :=
  ⟨[], _, before, rfl, holds⟩

/-- A program that calls nothing is watched as it is carried out. -/
theorem of_quiet {program : Program β} (quiet : program.Quiet)
    (carried : host.CarriesOut again program before (known [])) :
    host.Watches again program before known := by
  obtain ⟨result, after, ends, holds⟩ := carried
  have ends : (host.run again program).EndsAtOnce before result after := ends
  refine ⟨[], result, after, ?_, holds⟩
  rw [watch_of_quiet quiet, map_eq_pure_bind]
  exact ends.bind rfl

/-- What follows a program that calls nothing makes the calls. -/
theorem quiet_bind (quiet : program.Quiet)
    (first : host.CarriesOut again program before fun result middle =>
      match result with
      | .ok value => host.Watches again (next value) middle known
      | .error failure => known [] (.error failure) middle) :
    host.Watches again (program >>= next) before known := by
  obtain ⟨result, middle, ends, holds⟩ := first
  have ends : (host.run again program).EndsAtOnce before result middle := ends
  unfold Watches
  rw [watch_bind, watch_of_quiet quiet, map_eq_pure_bind]
  simp only [bind_assoc, pure_bind]
  cases result with
  | error failure => exact ⟨[], _, middle, ends.bind rfl, holds⟩
  | ok value =>
      obtain ⟨calls, last, after, late, holds⟩ := holds
      exact ⟨calls, last, after, ends.bind (late.bind rfl), holds⟩

theorem lookupAll_bind {handles : List Handle} {next : List HostValue → Program β}
    (found : ∀ values, handles.mapM before.1.objects.get = .ok values →
      host.Watches again (next values) before known)
    (missing : ∀ fault, handles.mapM before.1.objects.get = .error fault →
      known [] (.error (.fault fault)) before) :
    host.Watches again (Objects.lookupAll handles >>= next) before known := by
  refine quiet_bind (Program.quiet_lookupAll handles) ?_
  rw [← Program.andThen_answer (Objects.lookupAll handles)]
  exact CarriesOut.lookupAll_bind (fun values looked => .of_answer (found values looked)) missing

/-- A function is called once, and what follows makes the other calls. -/
theorem apply_bind {function : FunctionId} {this : HostValue} {args : List HostValue}
    {next : HostValue → Program β}
    (answers : ∀ value,
      (before.2.functions.apply function this args before.2.heap).1 = .ok value →
      host.Watches again (next value) (before.applied function this args) fun later =>
        known (⟨function, this, args⟩ :: later))
    (givesUp : ∀ text,
      (before.2.functions.apply function this args before.2.heap).1 = .error text →
      known [⟨function, this, args⟩] (.error (.panic (.message text)))
        (before.applied function this args)) :
    host.Watches again (Program.apply function this args >>= next) before known := by
  have responds : (host.respond again (.apply function this args)).EndsAtOnce before
      (before.2.functions.apply function this args before.2.heap).1
      (before.applied function this args) := rfl
  cases outcome : (before.2.functions.apply function this args before.2.heap).1 with
  | ok value =>
      rw [outcome] at responds
      obtain ⟨calls, last, after, late, holds⟩ := answers value outcome
      exact ⟨_, last, after, responds.bind (late.bind rfl), holds⟩
  | error text =>
      rw [outcome] at responds
      exact ⟨_, _, _, responds.bind rfl, givesUp text outcome⟩

end Watches

end Host

/-! ## Messages for a call -/

/-- What is done with the values of the handles in the payload of a message for a call. -/
def Objects.callValues (function : Handle) : List HostValue → Program Handle
  | .function id :: this :: args => do store (← Program.apply id this args)
  | values => Program.refuse (.typeMismatch function "function" (values.headD .null).kind)

/-- All values are looked up before anything is called. -/
theorem Objects.call_eq (function this : Handle) (args : List Handle) :
    call function this args = lookupAll (function :: this :: args) >>= callValues function := by
  rw [lookupAll_cons_bind]
  simp only [lookupAll_cons_bind]
  unfold call
  congr 1
  funext target
  congr 1
  funext receiver
  congr 1
  funext values
  cases target <;> rfl

/-- What the function of a call answers, or the message with which it gives up. -/
def Moment.answerOf (moment : Moment) (invocation : Invocation) : Except String HostValue :=
  (moment.2.functions.apply invocation.function invocation.this invocation.args moment.2.heap).1

/-- The moment after a call was made. -/
def Moment.having (moment : Moment) (invocation : Invocation) : Moment :=
  moment.applied invocation.function invocation.this invocation.args

/-- A payload is fit for a call: it is made of two words or more, each a live handle, and the
first of them stands for a function. -/
structure Moment.Callable (moment : Moment) (payload : Bytes) : Prop where
  whole : payload.length % 4 = 0
  long : 8 ≤ payload.length
  live : ∀ handle ∈ Wire.groupWords payload, moment.1.objects.isLive handle
  function : ∃ handle id, (Wire.groupWords payload).head? = some handle ∧
    moment.1.objects.get handle = .ok (.function id)

/-- The call that a payload asks for: the first word is the handle of the function, the second
that of the receiver, and the others are those of the arguments, in order. -/
def Moment.Invokes (moment : Moment) (payload : Bytes) (invocation : Invocation) : Prop :=
  ∃ function this args, Wire.groupWords payload = function :: this :: args ∧
    moment.1.objects.get function = .ok (.function invocation.function) ∧
    moment.1.objects.get this = .ok invocation.this ∧
    List.Forall₂ (fun handle value => moment.1.objects.get handle = .ok value) args invocation.args

/-- Why a payload asks for no call. -/
inductive Moment.RefusesCall (moment : Moment) (payload : Bytes) : Fault → Prop where
  | uneven (broken : payload.length % 4 ≠ 0) :
      moment.RefusesCall payload
        (.malformedPayload "call" (Wire.paddedLength payload.length) payload.length)
  | short (whole : payload.length % 4 = 0) (short : payload.length < 8) :
      moment.RefusesCall payload (.malformedPayload "call" 8 payload.length)
  /-- The first handle that is not live is reported. -/
  | dead {earlier later : List Handle} {handle : Handle} {fault : Fault}
      (whole : payload.length % 4 = 0) (long : 8 ≤ payload.length)
      (words : Wire.groupWords payload = earlier ++ handle :: later)
      (live : ∀ other ∈ earlier, moment.1.objects.isLive other)
      (missing : moment.1.objects.get handle = .error fault) : moment.RefusesCall payload fault
  | noFunction {function : Handle} {rest : List Handle} {value : HostValue}
      (whole : payload.length % 4 = 0) (long : 8 ≤ payload.length)
      (words : Wire.groupWords payload = function :: rest)
      (live : ∀ other ∈ rest, moment.1.objects.isLive other)
      (found : moment.1.objects.get function = .ok value) (other : ∀ id, value ≠ .function id) :
      moment.RefusesCall payload (.typeMismatch function "function" value.kind)

/-- How a message for a call ends after the call was made. -/
inductive Moment.EndsCall (moment : Moment) (invocation : Invocation) (library : UInt32) :
    Except Fault Handle → Moment → Prop where
  | null (answered : moment.answerOf invocation = .ok .null) :
      moment.EndsCall invocation library (.ok Handle.null) (moment.having invocation)
  | gaveUp {text : String} (gaveUp : moment.answerOf invocation = .error text) :
      moment.EndsCall invocation library (.error (.libraryPanic library text))
        (moment.having invocation)
  | full {value : HostValue} (answered : moment.answerOf invocation = .ok value)
      (proper : value ≠ .null) (full : moment.1.objects.place? = none) :
      moment.EndsCall invocation library (.error (.tableFull HandleTable.capacity))
        (moment.having invocation)
  | granted {value : HostValue} {handle : Handle} {after : Moment}
      (answered : moment.answerOf invocation = .ok value) (proper : value ≠ .null)
      (grants : (moment.having invocation).Grants handle after)
      (stands : after.1.objects.get handle = .ok value) :
      moment.EndsCall invocation library (.ok handle) after

/-- What a message for a call calls and how it ends. -/
inductive Moment.CallOutcome (moment : Moment) (payload : Bytes) (library : UInt32) :
    List Invocation → Except Fault Handle → Moment → Prop where
  | invoked {invocation : Invocation} {outcome : Except Fault Handle} {after : Moment}
      (callable : moment.Callable payload) (invokes : moment.Invokes payload invocation)
      (ends : moment.EndsCall invocation library outcome after) :
      moment.CallOutcome payload library [invocation] outcome after
  | refused {fault : Fault} (unfit : ¬ moment.Callable payload)
      (refuses : moment.RefusesCall payload fault) :
      moment.CallOutcome payload library [] (.error fault) moment

namespace Moment

variable {library : UInt32} {value : HostValue} {invocation : Invocation} {fault : Fault}

theorem RefusesCall.not_callable (refuses : before.RefusesCall payload fault) :
    ¬ before.Callable payload := by
  intro callable
  cases refuses with
  | uneven broken => exact broken callable.whole
  | short _ short => exact absurd callable.long (Nat.not_le.mpr short)
  | dead _ _ words _ missing =>
      have live := callable.live _ (words ▸ List.mem_append_right _ List.mem_cons_self)
      rw [HandleTable.isLive, missing] at live
      cases live
  | noFunction _ _ words _ found other =>
      obtain ⟨handle, id, first, function⟩ := callable.function
      rw [words] at first
      cases first
      cases found.symm.trans function
      exact other id rfl

theorem RefusesCall.outcome (refuses : before.RefusesCall payload fault) :
    before.CallOutcome payload library [] (.error fault) before :=
  .refused refuses.not_callable refuses

/-- The answer of a function is kept as far as there is room. -/
theorem EndsCall.of_keep (wf : before.1.objects.WellFormed .null (.object host.globalObject))
    (answered : before.answerOf invocation = .ok value) :
    before.EndsCall invocation library (before.1.objects.keep (some value)).1
      ({ before.1 with objects := (before.1.objects.keep (some value)).2 },
        (before.having invocation).2) := by
  by_cases null : value = .null
  · subst null
    exact .null answered
  · rw [HandleTable.keep_of_ne_null null]
    cases place : before.1.objects.place? with
    | none =>
        rw [HandleTable.insert_of_full place]
        exact .full answered null place
    | some index =>
        obtain ⟨next, inserted, -⟩ := HandleTable.insert_of_place wf place value
        have there : (before.having invocation).1.objects.insert value = _ := inserted
        have fine : (before.having invocation).1.objects.WellFormed .null
            (.object host.globalObject) := wf
        obtain ⟨grants, stands⟩ := grants_of_insert fine there
        rw [inserted]
        dsimp only
        exact .granted answered null grants stands

end Moment

namespace Host.Watches

variable {function this : Handle} {args : List Handle}

/-- With the values of all handles at hand, the function is called or the call is refused. -/
theorem of_callValues {values : List HostValue} (library : UInt32)
    (wf : before.1.objects.WellFormed .null (.object host.globalObject))
    (whole : payload.length % 4 = 0) (long : 8 ≤ payload.length)
    (words : Wire.groupWords payload = function :: this :: args)
    (looked : (function :: this :: args).mapM before.1.objects.get = .ok values) :
    host.Watches again (Objects.callValues function values) before fun calls result after =>
      before.CallOutcome payload library calls (result.mapError (failureFault library)) after := by
  have live : ∀ handle ∈ function :: this :: args, before.1.objects.isLive handle :=
    isOk_of_mapM looked
  obtain ⟨target, others, found, rest, rfl⟩ :=
    List.forall₂_cons_left_iff.mp (mapM_eq_ok_iff.mp looked)
  obtain ⟨receiver, passed, received, given, rfl⟩ := List.forall₂_cons_left_iff.mp rest
  cases target with
  | function id =>
      have callable : before.Callable payload :=
        ⟨whole, long, words ▸ live, function, id, by rw [words]; rfl, found⟩
      have invokes : before.Invokes payload ⟨id, receiver, passed⟩ :=
        ⟨function, this, args, words, found, received, given⟩
      refine apply_bind (fun value answered => ?_) fun text gaveUp => ?_
      · refine of_quiet (Program.quiet_store value) ((CarriesOut.store_eq value).mono ?_)
        rintro _ _ ⟨rfl, rfl⟩
        rw [HandleTable.keep_reported]
        exact .invoked callable invokes (.of_keep wf answered)
      · exact .invoked callable invokes (.gaveUp gaveUp)
  | _ =>
      have others := fun other among => live other (List.mem_cons_of_mem function among)
      exact of_refuse (Moment.RefusesCall.noFunction whole long words others found nofun).outcome

/-- A message for a call calls what its payload asks for, or nothing. -/
theorem of_callCommand (library : UInt32)
    (wf : before.1.objects.WellFormed .null (.object host.globalObject)) :
    host.Watches again (Objects.serveCommand .call payload) before fun calls result after =>
      before.CallOutcome payload library calls (result.mapError (failureFault library)) after := by
  unfold Objects.serveCommand
  cases decoded : Wire.decodeWords payload "call" with
  | error fault =>
      obtain ⟨broken, rfl⟩ := Wire.decodeWords_eq_error_iff.mp decoded
      exact of_refuse (Moment.RefusesCall.uneven broken).outcome
  | ok words =>
      obtain rfl := Wire.decodeWords_eq_ok_iff.mp decoded
      have length := Wire.length_encodeWords words
      have grouped := Wire.groupWords_encodeWords words
      have whole : (Wire.encodeWords words).length % 4 = 0 := by omega
      match words with
      | [] | [_] =>
          exact of_refuse (Moment.RefusesCall.short whole (by rw [length]; simp)).outcome
      | function :: this :: args =>
          have long : 8 ≤ (Wire.encodeWords (function :: this :: args)).length := by
            rw [length, List.length_cons, List.length_cons]
            omega
          change host.Watches again (Objects.call function this args) before _
          rw [Objects.call_eq]
          refine lookupAll_bind (fun values looked => ?_) fun fault missing => ?_
          · exact of_callValues library wf whole long grouped looked
          · obtain ⟨earlier, handle, later, split, fine, dead⟩ := mapM_eq_error_iff.mp missing
            have refuses := Moment.RefusesCall.dead whole long (grouped.trans split) fine dead
            rw [Except.mapError, failureFault_of_get library dead]
            exact refuses.outcome

end Host.Watches

/--
In a context that evolved from a new one, handle 0 stands for null and handle 1 for the global
object.  A message for a call that reaches the objects library makes exactly one call if its
payload is fit for one: of the function of the first handle, for the value of the second and
with those of the others.  It ends without a handle if the function answers null, gives up, or
answers when the table is full, and else with a new handle of the answer.  For any other payload
it makes no call and changes nothing.
-/
theorem calls_made_once (host : Host) {id : UInt32} {past : List Context.Event}
    (reached : (Context.new host id).Evolves past before.1)
    (reaches : before.Reaches envelope Objects.library payload)
    (addressed : envelope.command = Wire.ObjectCommand.call.toWord) :
    before.1.objects.get Handle.null = .ok .null ∧
    before.1.objects.get Handle.global = .ok (.object host.globalObject) ∧
    ∀ again, ∃ calls result outcome after,
      (host.watch again (Objects.library.serve envelope.command payload)).EndsAtOnce before
        (calls, result) after ∧
      outcome = result.mapError (Host.failureFault envelope.library) ∧
      (host.route again envelope).run.EndsAtOnce before outcome after ∧
      ((host.serving again).deliver envelope).EndsAtOnce before
        (Receipt.answer ⟨envelope, outcome⟩) (after.closing ⟨envelope, outcome⟩) ∧
      before.CallOutcome payload envelope.library calls outcome after := by
  have wf := reached.wellFormed_of_new
  refine ⟨(HandleTable.get_eq_ok_iff wf).mpr wf.null_slot,
    (HandleTable.get_eq_ok_iff wf).mpr wf.global_slot, fun again => ?_⟩
  have served : host.Watches again (Objects.library.serve envelope.command payload) before
      fun calls result after => before.CallOutcome payload envelope.library calls
        (result.mapError (Host.failureFault envelope.library)) after := by
    rw [addressed, Objects.serve_toWord]
    exact .of_callCommand envelope.library wf
  obtain ⟨calls, result, after, watched, ends⟩ := served
  have carried : host.CarriesOut again (Objects.library.serve envelope.command payload) before
      fun last moment => last = result ∧ moment = after :=
    ⟨result, after, Host.run_atOnce_of_watch watched, rfl, rfl⟩
  have settles : Settles (host.route again envelope) before fun outcome moment =>
      outcome = result.mapError (Host.failureFault envelope.library) ∧ moment = after := by
    refine Host.settles_route_of_reaches reaches (carried.mono fun last moment same => ?_)
    rw [same.1]
    exact ⟨rfl, same.2⟩
  have routed := settles.endsAtOnce
  have delivered : ((host.serving again).route envelope).EndsAtOnce before _ after := routed
  exact ⟨calls, result, _, after, watched, rfl, routed, Reentry.deliver_atOnce delivered, ends⟩

/-- A context with a function under handle 2, which counts its arguments, and a payload for a call
at the start of its memory. -/
def Moment.calling : Moment :=
  .withHeap (.withLibrary (.withValue (.owning .bare
    (.page 1 (Wire.encodeWords [2, Handle.global, Handle.null, 2, 2])) false) (.function 0))
    Objects.library) {} #[HostFunction.argumentCount]

/-- The function is called once, for the global object and with null and itself twice, and its
answer gets a new handle. -/
theorem calls_made_once_calling :
    ∃ result answer after,
      (Host.bare.watch Host.trapping (Objects.library.serve 2
        (Wire.encodeWords [2, Handle.global, Handle.null, 2, 2]))).EndsAtOnce Moment.calling
        ([⟨0, .object 0, [.null, .function 0, .function 0]⟩], result) after ∧
      (Host.bare.route Host.trapping ⟨2, 2, 0, 20⟩).run.EndsAtOnce Moment.calling (.ok answer)
        after ∧
      after.1.objects.get answer = .ok (.number (Nat.toFloat 3)) := by
  let started := { Context.new Host.bare mainContext with objects := Moment.calling.1.objects }
  have stored : (Context.new Host.bare mainContext).Step _ started :=
    .table (.insert (.function 0))
  have registers : started.Step [.registered Objects.library]
      { started with libraries := ⟨[Objects.library]⟩ } := .register Objects.library
  have placed : Context.Step { started with libraries := ⟨[Objects.library]⟩ } []
      Moment.calling.1 := .aside ⟨rfl, rfl, rfl, nofun⟩
  have reached := (stored.evolves.trans registers.evolves).trans placed.evolves
  have reaches : Moment.calling.Reaches ⟨2, 2, 0, 20⟩ Objects.library
      (Wire.encodeWords [2, Handle.global, Handle.null, 2, 2]) :=
    Moment.reaches_iff.mpr ⟨rfl, Moment.payloadOf_of_page rfl rfl rfl rfl (by decide)⟩
  obtain ⟨-, -, makes⟩ := calls_made_once Host.bare reached reaches rfl
  obtain ⟨calls, result, outcome, after, watched, -, routed, -, ends⟩ := makes Host.trapping
  have callable : Moment.calling.Callable
      (Wire.encodeWords [2, Handle.global, Handle.null, 2, 2]) :=
    ⟨rfl, by decide, List.all_eq_true.mp rfl, 2, 0, rfl, rfl⟩
  cases ends with
  | refused unfit => exact absurd callable unfit
  | @invoked invocation _ _ _ invokes ends =>
      obtain ⟨_, _, _, words, target, receiver, given⟩ := invokes
      obtain ⟨function, this, args⟩ := invocation
      cases words
      cases target
      cases receiver
      cases mapM_eq_ok_iff.mpr given
      cases ends with
      | null answered => cases answered
      | gaveUp gaveUp => cases gaveUp
      | full _ _ full => cases full
      | granted answered _ _ stands =>
          cases answered
          exact ⟨result, _, after, watched, routed, stands⟩

end WasmBridge
