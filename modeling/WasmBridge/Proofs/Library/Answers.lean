import WasmBridge.Proofs.Context.Delivery
import WasmBridge.Proofs.Text.Utf8
import WasmBridge.Proofs.Wire.Words

/-!
# Answers that are handles

Some messages ask for a value and are answered with its handle.  What they result in can
be said by the tables of the context and the heap alone.  Then there are three ways to
answer: the value is stored under a handle, there is no value but null, or the message
fails; only the first changes the context.
-/

namespace WasmBridge

open Activity

variable {host : Host} {again : Reentry} {before after : Moment} {envelope : Wire.Envelope}
  {payload : Bytes} {ε δ : Type}

/-! ## Results -/

/-- The commands of the objects library that are answered with a handle. -/
def Objects.handleCommands : List Wire.ObjectCommand :=
  [.newString, .newBytes, .call, .getNamed]

/-- What a command of the objects library results in, where it succeeds.  Only a property
may have no value. -/
inductive Moment.Gives (moment : Moment) :
    Wire.ObjectCommand → Bytes → Option HostValue → Prop where
  | newString (text : String) :
      moment.Gives .newString (Text.Utf8.encode text) (some (.string text))
  | newBytes (bytes : Bytes) : moment.Gives .newBytes bytes (some (.bytes bytes))
  | call {function this : Handle} {args : List Handle} {id : FunctionId} {receiver : HostValue}
      {values : List HostValue} {value : HostValue}
      (target : moment.1.objects.get function = .ok (.function id))
      (receives : moment.1.objects.get this = .ok receiver)
      (given : args.mapM moment.1.objects.get = .ok values)
      (answers : (moment.2.functions.apply id receiver values moment.2.heap).1 = .ok value) :
      moment.Gives .call (Wire.encodeWords (function :: this :: args)) (some value)
  | getNamed {object : Handle} {name : String} {holder : HostValue}
      (found : moment.1.objects.get object = .ok holder) :
      moment.Gives .getNamed (Wire.encodeWord object ++ Text.Utf8.encode name)
        (moment.2.heap.property? name holder)

theorem Moment.Gives.of_call {function this : Handle} {args : List Handle}
    {value : Option HostValue}
    (gives : before.Gives .call (Wire.encodeWords (function :: this :: args)) value) :
    ∃ id receiver values result, before.1.objects.get function = .ok (.function id) ∧
      before.1.objects.get this = .ok receiver ∧ args.mapM before.1.objects.get = .ok values ∧
      (before.2.functions.apply id receiver values before.2.heap).1 = .ok result := by
  generalize made : Wire.encodeWords (function :: this :: args) = payload at gives
  cases gives with
  | call target receives given answers =>
      cases Wire.encodeWords_injective made
      exact ⟨_, _, _, _, target, receives, given, answers⟩

theorem Moment.Gives.of_getNamed {value : Option HostValue}
    (gives : before.Gives .getNamed payload value) :
    ∃ object name holder, payload.take 4 = Wire.encodeWord object ∧
      payload.drop 4 = Text.Utf8.encode name ∧ before.1.objects.get object = .ok holder := by
  cases gives with
  | @getNamed object name holder found => exact ⟨object, name, holder, rfl, rfl, found⟩

/-- What a message results in, where it succeeds. -/
inductive Moment.ResultsIn (moment : Moment) (envelope : Wire.Envelope) :
    Option HostValue → Prop where
  | objects {command : Wire.ObjectCommand} {payload : Bytes} {value : Option HostValue}
      (reaches : moment.Reaches envelope Objects.library payload)
      (addressed : envelope.command = command.toWord)
      (gives : moment.Gives command payload value) : moment.ResultsIn envelope value
  | property {object key : Handle} {name : String} {holder : HostValue}
      (control : envelope.isControl)
      (addressed : envelope.command = Wire.ControlCommand.getProperty.toWord)
      (carried : moment.payloadOf envelope = .ok (Wire.encodeWords [object, key]))
      (named : moment.1.objects.get key = .ok (.string name))
      (found : moment.1.objects.get object = .ok holder) :
      moment.ResultsIn envelope (moment.2.heap.property? name holder)

/-- How a message that results in a value is answered with its handle. -/
inductive Answered (results : Option HostValue → Prop) (before : Moment) :
    Except ε Handle → Moment → Prop where
  | stored {value : HostValue} {handle : Handle} {objects : HandleTable HostValue}
      {shared : Shared} (given : results (some value)) (proper : value ≠ .null)
      (inserted : before.1.objects.insert value = .ok (handle, objects)) :
      Answered results before (.ok handle) ({ before.1 with objects }, shared)
  | nothing {shared : Shared} (given : results none ∨ results (some .null)) :
      Answered results before (.ok Handle.null) (before.1, shared)
  | refused {error : ε} {shared : Shared}
      (reason : (∀ value, ¬ results value) ∨
        ∃ value fault, before.1.objects.insert value = .error fault) :
      Answered results before (.error error) (before.1, shared)

theorem Answered.mapError {results : Option HostValue → Prop} {outcome : Except ε Handle}
    (change : ε → δ) (answered : Answered results before outcome after) :
    Answered results before (outcome.mapError change) after := by
  cases answered with
  | stored given proper inserted => exact .stored given proper inserted
  | nothing given => exact .nothing given
  | refused reason => exact .refused reason

/-! ## Programs -/

namespace Host.CarriesOut

variable {results : Option HostValue → Prop}

theorem of_proper {value : HostValue} {shared : Shared} (given : results (some value))
    (proper : value ≠ .null) :
    host.CarriesOut again (Program.insert value) (before.1, shared) (Answered results before) := by
  refine of_insert (fun handle objects inserted => .stored given proper inserted) ?_
  exact fun fault refused => .refused (.inr ⟨value, fault, refused⟩)

/-- A value is answered with its handle, and null with no handle. -/
theorem of_store {value : HostValue} {shared : Shared} (given : results (some value)) :
    host.CarriesOut again (Objects.store value) (before.1, shared)
      (Answered results before) := by
  unfold Objects.store
  cases value with
  | null => exact of_answer (.nothing (.inr given))
  | _ => exact of_proper given nofun

theorem of_readProperty {object : Handle} {name : String}
    (gives : ∀ holder, before.1.objects.get object = .ok holder →
      results (before.2.heap.property? name holder))
    (found : ∀ value, results value → ∃ holder, before.1.objects.get object = .ok holder) :
    host.CarriesOut again (Objects.readProperty object name) before (Answered results before) := by
  refine lookup_bind (fun holder looked => ?_) (fun fault missing => ?_)
  · refine property_bind ?_
    have given := gives holder looked
    cases read : before.2.heap.property? name holder with
    | none => exact of_answer (.nothing (.inl (read ▸ given)))
    | some value => exact of_store (read ▸ given)
  · refine .refused (.inl fun value given => ?_)
    obtain ⟨holder, looked⟩ := found value given
    rw [missing] at looked
    cases looked

theorem of_call {function this : Handle} {args : List Handle} :
    host.CarriesOut again (Objects.call function this args) before
      (Answered (before.Gives .call (Wire.encodeWords (function :: this :: args))) before) := by
  -- A call that gives a value went through every step, so one that stops at a step gives none.
  refine lookup_bind (fun target targeted => ?_) (fun fault missing => ?_)
  · refine lookup_bind (fun receiver received => ?_) (fun fault missing => ?_)
    · refine lookupAll_bind (fun values given => ?_) (fun fault missing => ?_)
      · cases target with
        | function id =>
            refine apply_bind (fun value answers => ?_) (fun text givesUp => ?_)
            · exact of_store (.call targeted received given answers)
            · refine .refused (.inl fun value gives => ?_)
              obtain ⟨_, _, _, _, target, receives, passed, answers⟩ := gives.of_call
              cases targeted.symm.trans target
              cases received.symm.trans receives
              cases given.symm.trans passed
              cases givesUp.symm.trans answers
        | _ =>
            refine of_refuse (.refused (.inl fun value gives => ?_))
            obtain ⟨_, _, _, _, target, -⟩ := gives.of_call
            cases targeted.symm.trans target
      · refine .refused (.inl fun value gives => ?_)
        obtain ⟨_, _, _, _, -, -, passed, -⟩ := gives.of_call
        cases missing.symm.trans passed
    · refine .refused (.inl fun value gives => ?_)
      obtain ⟨_, _, _, _, -, receives, -⟩ := gives.of_call
      cases missing.symm.trans receives
  · refine .refused (.inl fun value gives => ?_)
    obtain ⟨_, _, _, _, target, -⟩ := gives.of_call
    cases missing.symm.trans target

theorem of_newString :
    host.CarriesOut again (Objects.serveCommand .newString payload) before
      (Answered (before.Gives .newString payload) before) := by
  refine ofExcept_bind (fun text decoded => ?_) (fun fault refused => ?_)
  · obtain rfl := decodeText_eq_ok_iff.mp decoded
    exact of_proper (.newString text) nofun
  · refine .refused (.inl fun value gives => ?_)
    cases gives with
    | newString text =>
        rw [decodeText_eq_ok_iff.mpr rfl] at refused
        cases refused

theorem of_newBytes :
    host.CarriesOut again (Objects.serveCommand .newBytes payload) before
      (Answered (before.Gives .newBytes payload) before) :=
  of_proper (.newBytes payload) nofun

theorem of_callCommand :
    host.CarriesOut again (Objects.serveCommand .call payload) before
      (Answered (before.Gives .call payload) before) := by
  refine ofExcept_bind (fun words decoded => ?_) (fun fault refused => ?_)
  · obtain rfl := Wire.decodeWords_eq_ok_iff.mp decoded
    match words with
    | function :: this :: args => exact of_call
    | [] | [_] =>
        refine of_refuse (Answered.refused (.inl fun value gives => ?_))
        generalize made : Wire.encodeWords _ = payload at gives
        cases gives with
        | call => cases Wire.encodeWords_injective made
  · refine .refused (.inl fun value gives => ?_)
    cases gives with
    | call =>
        rw [Wire.decodeWords_eq_ok_iff.mpr rfl] at refused
        cases refused

theorem of_getNamed :
    host.CarriesOut again (Objects.serveCommand .getNamed payload) before
      (Answered (before.Gives .getNamed payload) before) := by
  rw [Objects.serveCommand]
  split
  next short =>
    refine of_refuse (.refused (.inl fun value gives => ?_))
    obtain ⟨object, name, holder, head, -⟩ := gives.of_getNamed
    have four := congrArg List.length head
    rw [List.length_take, Wire.length_encodeWord] at four
    omega
  next =>
    refine ofExcept_bind (fun object decoded => ?_) (fun fault refused => ?_)
    · have first := Wire.decodeOne_eq_ok_iff.mp decoded
      refine ofExcept_bind (fun name decoded => ?_) (fun fault refused => ?_)
      · have last := decodeText_eq_ok_iff.mp decoded
        refine of_readProperty (fun holder found => ?_) (fun value gives => ?_)
        · have given : before.Gives .getNamed (Wire.encodeWord object ++ Text.Utf8.encode name) _ :=
            .getNamed found
          rwa [← first, ← last, List.take_append_drop] at given
        · obtain ⟨other, _, holder, head, -, found⟩ := gives.of_getNamed
          rw [Wire.encodeWord_injective (first.symm.trans head)]
          exact ⟨holder, found⟩
      · refine .refused (.inl fun value gives => ?_)
        obtain ⟨_, name, _, -, tail, -⟩ := gives.of_getNamed
        rw [decodeText_eq_ok_iff.mpr tail] at refused
        cases refused
    · refine .refused (.inl fun value gives => ?_)
      obtain ⟨_, _, _, head, -⟩ := gives.of_getNamed
      rw [Wire.decodeOne_eq_ok_iff.mpr head] at refused
      cases refused

/-- Every command that is answered with a handle is answered by what it results in. -/
theorem of_handleCommand {command : Wire.ObjectCommand}
    (member : command ∈ Objects.handleCommands) :
    host.CarriesOut again (Objects.serveCommand command payload) before
      (Answered (before.Gives command payload) before) := by
  cases command with
  | newString => exact of_newString
  | newBytes => exact of_newBytes
  | call => exact of_callCommand
  | getNamed => exact of_getNamed
  | _ => exact absurd member (by decide)

end Host.CarriesOut

/-! ## Messages -/

/-- A message is one of those that are answered with a handle. -/
def Moment.AsksForHandle (moment : Moment) (envelope : Wire.Envelope) : Prop :=
  (moment.1.libraries.resolve envelope.library = .ok Objects.library ∧
    ∃ command ∈ Objects.handleCommands, envelope.command = command.toWord) ∨
  (envelope.isControl ∧ envelope.command = Wire.ControlCommand.getProperty.toWord)

theorem Wire.ObjectCommand.toWord_injective {first second : Wire.ObjectCommand}
    (same : first.toWord = second.toWord) : first = second := by
  have numbered := ofWord_toWord first
  rw [same, ofWord_toWord] at numbered
  exact (Except.ok.inj numbered).symm

/-- A message that reaches the objects library results in what its command does. -/
theorem Moment.resultsIn_iff_of_reaches {command : Wire.ObjectCommand} {value : Option HostValue}
    (reaches : before.Reaches envelope Objects.library payload)
    (addressed : envelope.command = command.toWord) :
    before.ResultsIn envelope value ↔ before.Gives command payload value := by
  constructor
  · intro results
    cases results with
    | objects also named gives =>
        have payloads := (Moment.reaches_iff.mp also).2.symm.trans (Moment.reaches_iff.mp reaches).2
        cases payloads
        cases Wire.ObjectCommand.toWord_injective (named.symm.trans addressed)
        exact gives
    | property control =>
        rw [reaches.isControl] at control
        cases control
  · exact .objects reaches addressed

theorem Answered.congr {results others : Option HostValue → Prop} {outcome : Except ε Handle}
    (answered : Answered results before outcome after) (same : ∀ value, others value ↔ results value) :
    Answered others before outcome after := by
  have equal : others = results := funext fun value => propext (same value)
  rw [equal]
  exact answered

/-- A message for a property that results in anything has the handles of a value and of a
string as its payload. -/
theorem Moment.ResultsIn.of_control {value : Option HostValue} (control : envelope.isControl)
    (results : before.ResultsIn envelope value) :
    ∃ object key name holder, before.payloadOf envelope = .ok (Wire.encodeWords [object, key]) ∧
      before.1.objects.get key = .ok (.string name) ∧ before.1.objects.get object = .ok holder := by
  cases results with
  | objects reaches =>
      rw [reaches.isControl] at control
      cases control
  | property _ _ carried named found => exact ⟨_, _, _, _, carried, named, found⟩

theorem Moment.ResultsIn.of_carried {value : Option HostValue} {object key : Handle}
    (control : envelope.isControl)
    (carried : before.payloadOf envelope = .ok (Wire.encodeWords [object, key]))
    (results : before.ResultsIn envelope value) :
    ∃ name holder, before.1.objects.get key = .ok (.string name) ∧
      before.1.objects.get object = .ok holder := by
  obtain ⟨_, _, name, holder, also, named, found⟩ := results.of_control control
  have same := Wire.encodeWords_injective (Except.ok.inj (also.symm.trans carried))
  obtain ⟨rfl, rfl⟩ : _ ∧ _ := by simpa using same
  exact ⟨name, holder, named, found⟩

namespace Host

/-- The control library answers a message for a property by what it results in. -/
theorem settles_getProperty (control : envelope.isControl)
    (addressed : envelope.command = Wire.ControlCommand.getProperty.toWord) :
    Settles (host.control again .getProperty envelope) before
      (Answered (before.ResultsIn envelope) before) := by
  refine .bind_of_inspection payload_done (fun bytes carried => ?_) (fun fault missing => ?_)
  · refine .bind_of_inspection (.of_except _) (fun words decoded => ?_) (fun fault refused => ?_)
    · obtain ⟨object, key⟩ := words
      obtain rfl := Wire.decodeTwo_eq_ok_iff.mp decoded
      have looked : (Attempt.lookup key).run.EndsAtOnce before (before.1.objects.get key) before :=
        rfl
      refine .bind_of_inspection looked (fun value named => ?_) (fun fault missing => ?_)
      · cases value with
        | string name =>
            have read : host.CarriesOut again (Objects.readProperty object name) before
                (Answered (before.ResultsIn envelope) before) := by
              refine .of_readProperty (fun holder found => ?_) (fun value results => ?_)
              · exact .property control addressed carried named found
              · obtain ⟨_, holder, -, found⟩ := results.of_carried control carried
                exact ⟨holder, found⟩
            dsimp only
            rw [serve_eq]
            exact .adapt (read.mono fun _ _ answered => answered.mapError _)
        | _ =>
            refine .of_throw (.refused (.inl fun value results => ?_))
            obtain ⟨_, _, string, -⟩ := results.of_carried control carried
            cases named.symm.trans string
      · refine .refused (.inl fun value results => ?_)
        obtain ⟨_, _, string, -⟩ := results.of_carried control carried
        cases missing.symm.trans string
    · refine .refused (.inl fun value results => ?_)
      obtain ⟨object, key, _, _, found, -⟩ := results.of_control control
      cases carried.symm.trans found
      cases refused.symm.trans (Wire.decodeTwo_eq_ok_iff.mpr rfl)
  · refine .refused (.inl fun value results => ?_)
    obtain ⟨_, _, _, _, found, -⟩ := results.of_control control
    cases missing.symm.trans found

/-- Every message that is answered with a handle is answered by what it results in. -/
theorem settles_route_of_asksForHandle (asks : before.AsksForHandle envelope) :
    Settles (host.route again envelope) before (Answered (before.ResultsIn envelope) before) := by
  rcases asks with ⟨registered, command, member, addressed⟩ | ⟨control, addressed⟩
  · have other := Registry.isControl_of_resolve registered
    cases carried : before.payloadOf envelope with
    | ok payload =>
        have reaches := Moment.reaches_iff.mpr ⟨registered, carried⟩
        refine settles_route_of_reaches reaches ?_
        rw [addressed, Objects.serve_toWord]
        refine (CarriesOut.of_handleCommand member).mono fun result after answered => ?_
        exact (answered.mapError _).congr fun value =>
          Moment.resultsIn_iff_of_reaches reaches addressed
    | error fault =>
        have unreached (library : Library) (payload : Bytes) :
            ¬ before.Reaches envelope library payload := fun reaches => by
          cases carried.symm.trans (Moment.reaches_iff.mp reaches).2
        refine settles_route_of_not_reaches other unreached fun fault => ?_
        refine .refused (.inl fun value results => ?_)
        cases results with
        | objects reaches => exact unreached _ _ reaches
        | property control =>
            rw [other] at control
            cases control
  · refine settles_route_of_isControl control (fun command named => ?_) (fun fault unknown => ?_)
    · rw [addressed, Wire.ControlCommand.ofWord_toWord] at named
      cases named
      exact settles_getProperty control addressed
    · rw [addressed, Wire.ControlCommand.ofWord_toWord] at unknown
      cases unknown

end Host

end WasmBridge
