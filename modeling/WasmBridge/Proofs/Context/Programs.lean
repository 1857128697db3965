import WasmBridge.Proofs.Context.AtOnce
import WasmBridge.Proofs.Context.Requests

/-!
# Programs that end at once

Most programs of libraries do not enter the guest: they end where they are told to, with
one result.  What is known of that end is put together from what is known of the requests,
in order.
-/

namespace WasmBridge

open Activity

namespace Attempt

variable {before : Moment} {value : HostValue}

theorem insert_atOnce {handle : Handle} {objects : HandleTable HostValue}
    (inserted : before.1.objects.insert value = .ok (handle, objects)) :
    (insert value).run.EndsAtOnce before (.ok handle) ({ before.1 with objects }, before.2) := by
  have got : (get : Activity Context).EndsAtOnce before before.1 before := rfl
  refine .run_bind (.run_lift got) ?_
  rw [inserted]
  rfl

theorem insert_atOnce_of_error {fault : Fault}
    (refused : before.1.objects.insert value = .error fault) :
    (insert value).run.EndsAtOnce before (.error fault) before := by
  have got : (get : Activity Context).EndsAtOnce before before.1 before := rfl
  refine .run_bind (.run_lift got) ?_
  rw [refused]
  rfl

end Attempt

/-- The first of several handles is looked up first. -/
theorem Objects.lookupAll_cons_bind {β : Type} (handle : Handle) (rest : List Handle)
    (next : List HostValue → Program β) :
    lookupAll (handle :: rest) >>= next =
      Program.lookup handle >>= fun value =>
        lookupAll rest >>= fun values => next (value :: values) := by
  change Program.andThen _ (Program.andThen _ _) = Program.andThen _ _
  rw [Program.andThen_assoc]
  congr 1
  funext value
  exact Program.andThen_assoc _ _ _

/-- A program is carried out at a moment when it settles there. -/
def Host.CarriesOut {α : Type} (host : Host) (again : Reentry) (program : Program α)
    (before : Moment) (known : Except Failure α → Moment → Prop) : Prop :=
  Settles (host.perform again program) before known

namespace Host.CarriesOut

variable {host : Host} {again : Reentry} {before : Moment} {α β : Type} {program : Program α}
  {next : α → Program β} {known : Except Failure β → Moment → Prop}

theorem of_answer {value : β} (holds : known (.ok value) before) :
    host.CarriesOut again (pure value) before known :=
  ⟨_, before, rfl, holds⟩

theorem of_refuse {fault : Fault} (holds : known (.error (.fault fault)) before) :
    host.CarriesOut again (Program.refuse fault) before known :=
  ⟨_, before, rfl, holds⟩

/-- What follows a request is carried out where the context responded. -/
theorem of_request {asked : Request} {next : asked.Response → Program β}
    {response : asked.Response} {middle : Moment}
    (responds : (host.respond again asked).EndsAtOnce before response middle)
    (rest : host.CarriesOut again (next response) middle known) :
    host.CarriesOut again (.request asked next) before known := by
  obtain ⟨result, after, ends, holds⟩ := rest
  exact ⟨result, after, EndsAtOnce.bind responds ends, holds⟩

theorem ofExcept_bind {result : Except Fault α}
    (answers : ∀ value, result = .ok value → host.CarriesOut again (next value) before known)
    (fails : ∀ fault, result = .error fault → known (.error (.fault fault)) before) :
    host.CarriesOut again (Program.ofExcept result >>= next) before known := by
  cases result with
  | ok value => exact answers value rfl
  | error fault => exact of_refuse (fails fault rfl)

variable {next : HostValue → Program β}

theorem lookup_bind {handle : Handle}
    (found : ∀ value, before.1.objects.get handle = .ok value →
      host.CarriesOut again (next value) before known)
    (missing : ∀ fault, before.1.objects.get handle = .error fault →
      known (.error (.fault fault)) before) :
    host.CarriesOut again (Program.lookup handle >>= next) before known := by
  have responds : (Attempt.lookup handle).run.EndsAtOnce before (before.1.objects.get handle)
      before := rfl
  exact of_request responds (ofExcept_bind found missing)

/-- Values are looked up one by one, up to the first handle that has none. -/
theorem lookupAll_bind {handles : List Handle} {next : List HostValue → Program β}
    (found : ∀ values, handles.mapM before.1.objects.get = .ok values →
      host.CarriesOut again (next values) before known)
    (missing : ∀ fault, handles.mapM before.1.objects.get = .error fault →
      known (.error (.fault fault)) before) :
    host.CarriesOut again (Objects.lookupAll handles >>= next) before known := by
  induction handles generalizing next with
  | nil => exact found [] rfl
  | cons handle rest ih =>
      rw [List.mapM_cons] at found missing
      rw [Objects.lookupAll_cons_bind]
      refine lookup_bind (fun value looked => ?_) (fun fault lost => ?_)
      · rw [looked] at found missing
        refine ih (fun values looked => ?_) (fun fault lost => ?_)
        · rw [looked] at found
          exact found _ rfl
        · rw [lost] at missing
          exact missing _ rfl
      · rw [lost] at missing
        exact missing _ rfl

theorem property_bind {holder : HostValue} {name : String}
    {next : Option HostValue → Program β}
    (read : host.CarriesOut again (next (before.2.heap.property? name holder)) before known) :
    host.CarriesOut again (Program.ask (.property holder name) >>= next) before known := by
  have responds : (host.respond again (.property holder name)).EndsAtOnce before
      (before.2.heap.property? name holder) before := rfl
  exact of_request responds read

/-- A function is called once, and leaves the heap as it does whether it answers or gives
up. -/
theorem apply_bind {function : FunctionId} {this : HostValue} {args : List HostValue}
    (answers : ∀ value,
      (before.2.functions.apply function this args before.2.heap).1 = .ok value →
      host.CarriesOut again (next value) (before.applied function this args) known)
    (givesUp : ∀ text,
      (before.2.functions.apply function this args before.2.heap).1 = .error text →
      known (.error (.panic (.message text))) (before.applied function this args)) :
    host.CarriesOut again (Program.apply function this args >>= next) before known := by
  have responds : (host.respond again (.apply function this args)).EndsAtOnce before
      (before.2.functions.apply function this args before.2.heap).1
      (before.applied function this args) := rfl
  refine of_request responds ?_
  cases outcome : (before.2.functions.apply function this args before.2.heap).1 with
  | ok value => exact answers value outcome
  | error text => exact ⟨_, _, rfl, givesUp text outcome⟩

theorem of_insert {value : HostValue} {known : Except Failure Handle → Moment → Prop}
    (stored : ∀ handle objects, before.1.objects.insert value = .ok (handle, objects) →
      known (.ok handle) ({ before.1 with objects }, before.2))
    (refused : ∀ fault, before.1.objects.insert value = .error fault →
      known (.error (.fault fault)) before) :
    host.CarriesOut again (Program.insert value) before known := by
  cases inserted : before.1.objects.insert value with
  | ok result =>
      obtain ⟨handle, objects⟩ := result
      exact of_request (Attempt.insert_atOnce inserted) (of_answer (stored handle objects inserted))
  | error fault =>
      exact of_request (Attempt.insert_atOnce_of_error inserted)
        (of_refuse (refused fault inserted))

end Host.CarriesOut

end WasmBridge
