import WasmBridge.Context.Router
import WasmBridge.Proofs.Context.Ends

/-!
# What requests do to a context

Most of what a message needs only inspects the context.  A value is stored and a
worker started as a whole or not at all.  The program of a library is carried out
request by request: `perform` turns one program after another into one attempt after
another.
-/

namespace WasmBridge

open Activity

variable {α β ε : Type} {before after : Moment} {bounds : Moment → Prop}

/-- The moment after a function was called. -/
def Moment.applied (before : Moment) (function : FunctionId) (this : HostValue)
    (args : List HostValue) : Moment :=
  (before.1, { before.2 with
    heap := (before.2.functions.apply function this args before.2.heap).2 })

/-! ## Inspecting the context -/

theorem Activity.inspects_memory? : Inspects memory? := by
  refine Inspects.of_get.bind fun context => ?_
  cases context.home with
  | absent => exact .of_pure none
  | shared => exact Inspects.of_shared.bind fun shared => .of_pure _
  | own memory => exact .of_pure (some memory)

theorem Activity.inspects_heap (read : Heap → α) :
    Inspects (do return read (← Activity.heap)) :=
  (Inspects.of_shared.bind fun _ => .of_pure _).bind fun _ => .of_pure _

namespace Attempt

theorem inspects_bridged : Inspects bridged.run := by
  refine Inspects.of_get.run_lift.run_bind fun context => ?_
  refine inspects_memory?.run_lift.run_bind fun memory => ?_
  split
  · exact .of_pure _
  · exact .of_throw _

theorem inspects_view (offset length : UInt32) : Inspects (view offset length).run :=
  inspects_bridged.run_bind fun _ => .of_except _

theorem inspects_lookup (handle : Handle) : Inspects (lookup handle).run :=
  Inspects.of_get.run_lift.run_bind fun _ => .of_except _

/-- A lookup answers with what the table of the context says. -/
theorem ends_lookup_iff {handle : Handle} {result : Except Fault HostValue} :
    (lookup handle).run.Ends before result after ↔
      result = before.1.objects.get handle ∧ after = before :=
  ends_of_done rfl

/-- A value that cannot be stored leaves the table as it was. -/
theorem failsInto_insert (value : HostValue) (here : bounds before) :
    FailsInto bounds before (insert value) := by
  refine .bind here Inspects.of_get.run_lift fun context _ => ?_
  split
  · exact .of_succeeds ((Succeeds.of_lift _).bind fun _ => .of_pure _)
  · exact .of_inspects here (.of_throw _)

/-- Bytes that cannot be written leave the memory as it was. -/
theorem failsInto_write (offset : UInt32) (bytes : Bytes) (here : bounds before) :
    FailsInto bounds before (write offset bytes) := by
  refine .bind here inspects_bridged fun ⟨bridge, memory⟩ _ => ?_
  dsimp only
  split
  · exact .of_succeeds (.of_lift _)
  · exact .of_inspects here (.of_throw _)

end Attempt

/-! ## Entering the guest -/

namespace Reentry

variable {again : Reentry}

theorem ends_call_of_enter {name : String} {args : List Wasm.Value}
    {result : Except Fault (List Wasm.Value)}
    (ends : (again.enter name args).run.Ends before result after) :
    ∃ outcome, (again.call (.exported name) args).Ends before outcome after := by
  rcases ends_run_bind_iff.mp ends with ⟨error, early, -⟩ | ⟨outcome, middle, early, late⟩
  · obtain ⟨value, impossible, -⟩ := ends_run_lift_iff.mp early
    cases impossible
  · obtain ⟨first, -, called⟩ := ends_run_lift_iff.mp early
    have stays : after = middle := by
      cases outcome with
      | ok results => exact Inspects.of_pure _ _ _ _ late
      | error trap => exact Inspects.of_throw _ _ _ _ late
    rw [stays]
    exact ⟨first, called⟩

theorem ends_call_of_enterWithWords {name : String} {args : List UInt32}
    {result : Except Fault UInt32}
    (ends : (again.enterWithWords name args).run.Ends before result after) :
    ∃ outcome, (again.call (.exported name) (args.map .word)).Ends before outcome after := by
  rcases ends_run_bind_iff.mp ends with ⟨error, early, -⟩ | ⟨results, middle, early, late⟩
  · exact ends_call_of_enter early
  · rw [Inspects.of_pure _ _ _ _ late]
    exact ends_call_of_enter early

/-- Bytes that cannot be handed over leave what the guest did to make room. -/
theorem failsInto_writeBytes (bytes : Bytes) (here : bounds before)
    (reserved : ∀ outcome after,
      (again.call (.exported Wasm.Abi.reserveSpace) [.word (UInt32.ofNat bytes.length)]).Ends
        before outcome after → bounds after) :
    FailsInto bounds before (again.writeBytes bytes) := by
  refine .bind here Attempt.inspects_bridged fun ⟨bridge, memory⟩ _ => ?_
  dsimp only
  split
  · exact .of_inspects here (.of_throw _)
  · split
    · exact .of_inspects here (.of_throw _)
    · have within : ∀ result after,
          (again.enterWithWords Wasm.Abi.reserveSpace [UInt32.ofNat bytes.length]).run.Ends
            before result after → bounds after := by
        intro result after ends
        obtain ⟨outcome, called⟩ := ends_call_of_enterWithWords ends
        exact reserved _ _ called
      refine .bind_within within fun offset middle there => ?_
      exact (Attempt.failsInto_write _ _ there).bind_succeeds fun _ => .of_pure _

end Reentry

namespace Host

variable {host : Host} {again : Reentry}

theorem inspects_payload (envelope : Wire.Envelope) : Inspects (payload envelope).run := by
  unfold payload
  split
  · exact .of_pure (Except.ok [])
  · exact Attempt.inspects_view _ _

theorem inspects_payloadText (envelope : Wire.Envelope) : Inspects (payloadText envelope).run :=
  (inspects_payload envelope).run_bind fun _ => .of_except _

/-- A worker that cannot be started leaves the pool as it was. -/
theorem failsInto_spawn (launch : Wire.Launch) (here : bounds before) :
    FailsInto bounds before (host.spawn launch) := by
  unfold spawn
  split
  · exact .of_inspects here (.of_throw _)
  · split
    · exact .of_inspects here (.of_throw _)
    · refine .bind here Inspects.of_shared.run_lift fun shared _ => ?_
      split
      · exact .of_succeeds ((Succeeds.of_lift _).bind fun _ => .of_pure _)
      · exact .of_inspects here (.of_throw _)

/-! ## Programs of libraries -/

/-- A program as an attempt that ends in the program's failure. -/
def perform (host : Host) (again : Reentry) (program : Program α) : ExceptT Failure Activity α :=
  ExceptT.mk (host.run again program)

@[simp] theorem perform_ask (asked : Request) :
    host.perform again (Program.ask asked) = liftM (host.respond again asked) :=
  rfl

@[simp] theorem perform_ofExcept (result : Except Fault α) :
    host.perform again (Program.ofExcept result) =
      ExceptT.mk (pure (result.mapError .fault)) := by
  cases result <;> rfl

/-- One program after another is one attempt after another. -/
@[simp] theorem perform_bind (program : Program α) (next : α → Program β) :
    host.perform again (program >>= next) =
      host.perform again program >>= fun value => host.perform again (next value) := by
  induction program with
  | answer value => rfl
  | fail failure => rfl
  | request asked rest ih =>
      apply ExceptT.ext
      rw [ExceptT.run_bind]
      change (host.respond again asked >>= fun response =>
          host.run again (rest response >>= next)) =
        (host.respond again asked >>= fun response => host.run again (rest response)) >>= _
      rw [bind_assoc]
      congr 1
      funext response
      have later := congrArg ExceptT.run (ih response)
      rw [ExceptT.run_bind] at later
      exact later

/-- A program that only inspects at first goes on from the moment where it began. -/
theorem failsInto_perform_bind {program : Program α} {next : α → Program β}
    (here : bounds before) (first : (host.perform again program).run.Inspects)
    (rest : ∀ value, (host.perform again program).run.Ends before (.ok value) before →
      FailsInto bounds before (host.perform again (next value))) :
    FailsInto bounds before (host.perform again (program >>= next)) := by
  rw [perform_bind]
  exact .bind here first rest

/-- A fault of the context is a fault of the program that asked for it. -/
theorem adapt_fault_eq (attempt : Attempt α) :
    attempt.adapt .fault =
      ExceptT.mk (attempt.run >>= fun result => host.run again (Program.ofExcept result)) := by
  apply ExceptT.ext
  change (attempt.run >>= fun result => pure (result.mapError Failure.fault)) =
    attempt.run >>= fun result => host.run again (Program.ofExcept result)
  congr 1
  funext result
  cases result <;> rfl

@[simp] theorem perform_lookup (handle : Handle) :
    host.perform again (Program.lookup handle) = (Attempt.lookup handle).adapt .fault :=
  (adapt_fault_eq _).symm

@[simp] theorem perform_insert (value : HostValue) :
    host.perform again (Program.insert value) = (Attempt.insert value).adapt .fault :=
  (adapt_fault_eq _).symm

@[simp] theorem perform_writeText (text : String) :
    host.perform again (Program.writeText text) = (again.writeText text).adapt .fault :=
  (adapt_fault_eq _).symm

/-- A function changes the heap and nothing else, whether it answers or gives up. -/
theorem ends_apply {function : FunctionId} {this : HostValue} {args : List HostValue}
    {result : Except Failure HostValue}
    (ends : (host.perform again (Program.apply function this args)).run.Ends before result after) :
    after = before.applied function this args := by
  obtain ⟨answer, middle, asked, rest⟩ := ends_bind_iff.mp ends
  have moved : middle = before.applied function this args := (ends_changeShared_iff.mp asked).2
  rw [← moved]
  cases answer with
  | ok value => exact (ends_pure_iff.mp rest).2
  | error text => exact (ends_pure_iff.mp rest).2

/-- A library that fails is reported under the number it was addressed by. -/
theorem serve_eq (library : UInt32) (program : Program UInt32) :
    host.serve again library program =
      (host.perform again program).adapt (failureFault library) := by
  apply ExceptT.ext
  unfold serve
  rw [ExceptT.run_bind]
  change (host.run again program >>= fun result => pure (Except.ok result)) >>= _ =
    host.run again program >>= fun result => pure (result.mapError (failureFault library))
  rw [bind_assoc]
  congr 1
  funext result
  cases result <;> rfl

end Host

end WasmBridge
