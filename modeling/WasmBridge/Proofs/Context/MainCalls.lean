import WasmBridge.Proofs.Context.Beginning

/-!
# The calls of a main context

A main context calls its guest in a fixed order: the start function, the two functions for the
local storage if the guest has both, and the function with which the guest begins.  The first
call that traps is the last one.  While the start function runs there is no bridge to the
memory; every later function finds it bound.
-/

namespace WasmBridge

open Activity

variable {host : Host} {others : Shared → Shared → Prop} {before after moment : Moment}
  {block : UInt32} {visit : Visit} {early late visits : List Visit} {call : GuestCall}
  {calls more : List GuestCall} {args : List Wasm.Value} {result : Except Fault Unit}
  {fault : Fault}

/-! ## Calls in turn -/

/-- Calls are made one after the other, up to the first that traps. -/
inductive Made : List GuestCall → List Visit → Except Fault Unit → Prop where
  | all : Made [] [] (.ok ())
  | returned {visit : Visit} {results : List Wasm.Value} {calls : List GuestCall}
      {visits : List Visit} {result : Except Fault Unit} (returned : visit.outcome = .ok results)
      (rest : Made calls visits result) : Made (visit.call :: calls) (visit :: visits) result
  | trapped {visit : Visit} {trap : Guest.Trap} (trapped : visit.outcome = .error trap)
      (calls : List GuestCall) : Made (visit.call :: calls) [visit] (.error (visit.fault trap))

namespace Made

theorem calls_prefix (made : Made calls visits result) :
    visits.map Visit.call <+: calls := by
  induction made with
  | all => exact List.prefix_refl []
  | returned _ _ ih => exact List.cons_prefix_cons.mpr ⟨rfl, ih⟩
  | trapped _ calls => exact List.prefix_append [_] calls

theorem of_runs (runs : visit.Runs host others before call) :
    Made [call] [visit] visit.result := by
  rw [← runs.calls]
  unfold Visit.result
  cases outcome : visit.outcome with
  | ok results => exact .returned outcome .all
  | error trap => exact .trapped outcome []

/-- When all calls came back, more of them can be made. -/
theorem append (first : Made calls early (.ok ())) (rest : Made more late result) :
    Made (calls ++ more) (early ++ late) result := by
  generalize ended : Except.ok () = answer at first
  induction first with
  | all => exact rest
  | returned returned _ ih => exact .returned returned (ih ended)
  | trapped => cases ended

/-- After a call that trapped no more of them are made. -/
theorem stop (stopped : Made calls visits (.error fault)) (more : List GuestCall) :
    Made (calls ++ more) visits (.error fault) := by
  generalize ended : Except.error fault = answer at stopped ⊢
  induction stopped with
  | all => cases ended
  | returned returned _ ih => exact .returned returned (ih ended)
  | trapped trapped calls => exact .trapped trapped (calls ++ more)

end Made

/-! ## The order of the calls -/

namespace Host

instance : Decidable host.CanStore :=
  inferInstanceAs (Decidable (_ ∧ _))

/-- The call of the start function, if the module has one. -/
def startCalls (host : Host) : List GuestCall :=
  match host.module.start with
  | some name => [(.own name, [])]
  | none => []

/-- The calls for the local storage of the main thread, for which room is made at `block`. -/
def storageCalls (host : Host) (block : UInt32) : List GuestCall :=
  if host.CanStore then
    [(.exported Wasm.Abi.allocTls, []), (.exported Wasm.Abi.initTls, [.word block])]
  else []

/-- The call with which the guest begins, if it can be made. -/
def entryCalls (host : Host) : List GuestCall :=
  match host.mainEntry? with
  | some (name, type) =>
    if type.parameters.any (·.isReference) then []
    else [(.exported name, type.parameters.map .initial)]
  | none => []

/-- The calls of the guest in a main context. -/
def mainCalls (host : Host) (block : UInt32) : List GuestCall :=
  host.startCalls ++ host.storageCalls block ++ host.entryCalls

/-- What comes of the calls in a main context: nothing was called, a call trapped, or all calls
came back. -/
inductive Comes (host : Host) (block : UInt32) : List Visit → Except Fault Unit → Prop where
  | unlaid {fault : Fault} (unlaid : host.Unlaid mainContext fault) :
      Comes host block [] (.error fault)
  | stopped {visits : List Visit} {fault : Fault}
      (stopped : Made (host.mainCalls block) visits (.error fault)) :
      Comes host block visits (.error fault)
  | missing {visits : List Visit} (made : Made (host.mainCalls block) visits (.ok ()))
      (main : host.module.exportedFunction? "main" = none)
      (start : host.module.exportedFunction? "_start" = none) :
      Comes host block visits (.error (.missingExport "main or _start"))
  | demanding {visits : List Visit} {name : String} {type : Wasm.FunctionType}
      {parameter : Wasm.ValueType} (made : Made (host.mainCalls block) visits (.ok ()))
      (begins : host.BeginsWith name type)
      (reference : type.parameters.find? (·.isReference) = some parameter) :
      Comes host block visits
        (.error (.guestTrap name s!"entry point takes a {parameter.describe} parameter"))
  | through {visits : List Visit} {name : String} {type : Wasm.FunctionType}
      (made : Made (host.mainCalls block) visits (.ok ())) (begins : host.BeginsWith name type)
      (plain : ∀ parameter ∈ type.parameters, parameter.isReference = false) :
      Comes host block visits (.ok ())

theorem Comes.calls_prefix (comes : host.Comes block visits result) :
    visits.map Visit.call <+: host.mainCalls block := by
  cases comes with
  | unlaid => exact List.nil_prefix
  | stopped made | missing made | demanding made | through made => exact made.calls_prefix

end Host

/-! ## The bridge -/

/-- The bridge is bound and leads to a memory. -/
def Moment.ReadsThrough (moment : Moment) (bridge : Bridge) : Prop :=
  ∃ memory, Attempt.bridged.run.EndsAtOnce moment (.ok (bridge, memory)) moment

/-- The context has the bridge of its instance. -/
structure Host.Bound (host : Host) (moment : Moment) : Prop where
  bridge : moment.1.bridge = host.bridge?
  home : host.home.Remains moment.1.home

namespace Host

/-- There is a memory behind a bridge. -/
theorem home_ne_absent {bridge : Bridge} (known : host.bridge? = some bridge) :
    host.home ≠ .absent := by
  unfold bridge? at known
  unfold home
  cases plan : host.plan with
  | «shared» | separate => nofun
  | exported =>
      cases memory : host.module.memory with
      | some memory => nofun
      | none =>
          rw [plan, memory] at known
          cases known

namespace Bound

theorem reaches {bridge : Bridge} (bound : host.Bound moment)
    (known : host.bridge? = some bridge) : moment.ReadsThrough bridge := by
  have found : ∃ memory, moment.memory? = some memory := by
    have present := home_ne_absent known
    have remains := bound.home
    unfold Moment.memory?
    generalize host.home = first at present remains
    generalize moment.1.home = later at remains
    cases remains with
    | absent => exact absurd rfl present
    | «shared» | own => exact ⟨_, rfl⟩
  obtain ⟨memory, found⟩ := found
  exact ⟨memory, Attempt.bridged_atOnce (bound.bridge.trans known) found⟩

/-- A visit leaves the bridge bound. -/
theorem of_runs (bound : host.Bound before) (runs : visit.Runs host others before call) :
    host.Bound visit.after := by
  obtain ⟨-, bridge, home⟩ := runs.context
  exact ⟨bridge.trans bound.bridge, bound.home.trans home⟩

end Bound

/-- The bridge is bound to the instance if there was none before. -/
theorem bound_bindingAt (unbound : moment.1.bridge = none)
    (remains : host.home.Remains moment.1.home) :
    host.Bound (host.bindingAt moment) := by
  unfold bindingAt
  cases known : host.bridge? with
  | some bridge => exact ⟨known.symm, remains⟩
  | none => exact ⟨unbound.trans known.symm, remains⟩

end Host

/-! ## Visits in their places -/

/-- The messages that are served in a call of the guest, to any depth. -/
def Visit.Carries (host : Host) (others : Shared → Shared → Prop) (visit : Visit)
    (messages : List Message) : Prop :=
  Traced host others Host.greatestDepth (fun again => again.call visit.target visit.args)
    visit.before messages visit.outcome visit.after

/-- What is known of a call of the guest by a main context. -/
structure Visit.Regular (host : Host) (others : Shared → Shared → Prop) (block : UInt32)
    (visit : Visit) : Prop where
  /-- Where room is made for the local storage. -/
  room : visit.target = .exported Wasm.Abi.allocTls → ∀ results, visit.outcome = .ok results →
    results = [.word block]
  /-- No payload that the start function sends is heard: the run has its messages, and however
  they are found, each of them that was to be read failed for want of a memory. -/
  unheard : ∀ name, visit.target = .own name →
    (∃ messages, visit.Carries host others messages) ∧
      ∀ messages, visit.Carries host others messages →
        ∀ message ∈ messages, message.receipt.Unheard mainContext
  /-- Every other function finds the bridge bound, and leaves it so. -/
  reaches : ∀ name, visit.target = .exported name → ∀ bridge, host.bridge? = some bridge →
    visit.before.ReadsThrough bridge ∧ visit.after.ReadsThrough bridge

namespace Visit.Regular

theorem of_own {name : String} (runs : visit.Runs host others before (.own name, args))
    (main : before.1.id = mainContext) (unbound : before.1.bridge = none) :
    visit.Regular host others block := by
  obtain ⟨outcome, after, rfl, ends⟩ := runs.exists_eq
  refine ⟨nofun, fun _ _ => ⟨?_, fun messages traced => ?_⟩, nofun⟩
  · exact (Traced.of_reentry host others Host.greatestDepth).1 _ _ _ _ _ ends
  · rw [← main]
    exact traced.proceeds.unheard unbound

theorem of_exported {name : String} (runs : visit.Runs host others before (.exported name, args))
    (bound : host.Bound before)
    (room : name = Wasm.Abi.allocTls → ∀ results, visit.outcome = .ok results →
      results = [.word block]) :
    visit.Regular host others block := by
  have left := bound.of_runs runs
  obtain ⟨outcome, after, rfl, ends⟩ := runs.exists_eq
  refine ⟨fun same => room (Wasm.Designator.exported.inj same), nofun, fun _ _ bridge known => ?_⟩
  exact ⟨bound.reaches known, left.reaches known⟩

end Visit.Regular

/-! ## Steps in order -/

/-- The calls of a main context are made in order, and come to a result. -/
structure Host.InOrder (host : Host) (others : Shared → Shared → Prop) (block : UInt32)
    (visits : List Visit) (result : Except Fault Unit) : Prop where
  calls : visits.map Visit.call <+: host.mainCalls block
  comes : host.Comes block visits result
  regular : ∀ visit ∈ visits, visit.Regular host others block

namespace Beginning

theorem Starts.made (main : before.1.id = mainContext)
    (starts : Starts host others before visits result after) :
    (visits = [] ∧ ∃ fault, result = .error fault ∧ host.Unlaid mainContext fault) ∨
      Made host.startCalls visits result := by
  unfold Host.startCalls
  cases starts with
  | unlaid fails =>
      exact .inl ⟨rfl, _, rfl, main ▸ (Host.LaysOut.of_ends fails).fault _ rfl⟩
  | plain _ none =>
      rw [none]
      exact .inr .all
  | started _ some runs =>
      rw [some]
      exact .inr (.of_runs runs)

/-- What the start function finds: a main context that is not bound yet. -/
theorem Starts.regular (main : before.1.id = mainContext) (unbound : before.1.bridge = none)
    (starts : Starts host others before visits result after) :
    ∀ visit ∈ visits, visit.Regular host others block := by
  cases starts with
  | unlaid | plain => exact List.forall_mem_nil _
  | started laid _ runs =>
      have lays := Host.LaysOut.of_ends laid
      refine List.forall_mem_singleton.mpr (.of_own runs ?_ ?_)
      · exact lays.number.trans main
      · exact lays.bridge.trans unbound

theorem Starts.bound (unbound : before.1.bridge = none)
    (starts : Starts host others before visits (.ok ()) after) :
    host.Bound (host.bindingAt after) := by
  generalize same : Except.ok () = answer at starts
  cases starts with
  | unlaid => cases same
  | plain laid =>
      have lays := Host.LaysOut.of_ends laid
      exact Host.bound_bindingAt (lays.bridge.trans unbound) (lays.home rfl)
  | started laid _ runs =>
      have lays := Host.LaysOut.of_ends laid
      obtain ⟨-, bridge, home⟩ := runs.context
      exact Host.bound_bindingAt (bridge.trans (lays.bridge.trans unbound))
        ((lays.home rfl).trans home)

theorem Stores.made (stores : Stores host others before visits result after)
    (bound : host.Bound before) :
    ∃ block, Made (host.storageCalls block) visits result ∧
      (∀ visit ∈ visits, visit.Regular host others block) ∧ host.Bound after := by
  cases stores with
  | skipped unable =>
      have none : host.storageCalls 0 = [] := if_neg unable
      exact ⟨0, none ▸ .all, List.forall_mem_nil _, bound⟩
  | @unallocated visit trap able runs trapped =>
      have calls : host.storageCalls 0 = [_, _] := if_pos able
      refine ⟨0, ?_, List.forall_mem_singleton.mpr (.of_exported runs bound ?_),
        bound.of_runs runs⟩
      · rw [calls, ← runs.calls, Visit.result, trapped]
        exact .trapped trapped _
      · intro _ results returned
        cases trapped.symm.trans returned
  | @allocated visit next block able runs answered follows =>
      have calls : host.storageCalls block = [_, _] := if_pos able
      have between := bound.of_runs runs
      have first : visit.Regular host others block := by
        refine .of_exported runs bound fun _ results returned => ?_
        cases answered.symm.trans returned
        rfl
      have second : next.Regular host others block :=
        .of_exported follows between fun same => absurd same (by decide)
      refine ⟨block, ?_, List.forall_mem_cons.mpr ⟨first, List.forall_mem_singleton.mpr second⟩,
        between.of_runs follows⟩
      rw [calls, ← runs.calls]
      exact .returned answered (.of_runs follows)

/-- Whether the guest gets to begin, and with which call. -/
theorem Enters.comes (enters : Enters host others before late result after)
    (bound : host.Bound before)
    (made : Made (host.startCalls ++ host.storageCalls block) early (.ok ())) :
    host.Comes block (early ++ late) result ∧ ∀ visit ∈ late, visit.Regular host others block := by
  have whole {answer} (rest : Made host.entryCalls late answer) :
      Made (host.mainCalls block) (early ++ late) answer := made.append rest
  cases enters with
  | missing main start =>
      have none : host.entryCalls = [] := by
        rw [Host.entryCalls, mainEntry?_eq_none_iff.mpr ⟨main, start⟩]
      exact ⟨.missing (whole (none ▸ .all)) main start, List.forall_mem_nil _⟩
  | @demanding name type parameter begins reference =>
      have refers : type.parameters.any (·.isReference) = true :=
        List.any_eq_true.mpr ⟨parameter, List.mem_of_find?_eq_some reference,
          List.find?_some reference⟩
      have none : host.entryCalls = [] := by
        rw [Host.entryCalls, mainEntry?_eq_some_iff.mpr begins]
        exact if_pos refers
      exact ⟨.demanding (whole (none ▸ .all)) begins reference, List.forall_mem_nil _⟩
  | @entered name type visit begins plain runs =>
      have own : type.parameters.any (·.isReference) = false := by
        simpa using plain
      have single : host.entryCalls = [(.exported name, type.parameters.map .initial)] := by
        rw [Host.entryCalls, mainEntry?_eq_some_iff.mpr begins]
        exact if_neg (by simp [own])
      have made : Made (host.mainCalls block) (early ++ [visit]) visit.result := by
        refine whole ?_
        rw [single]
        exact .of_runs runs
      have regular : visit.Regular host others block := by
        refine .of_exported runs bound fun same => ?_
        cases begins <;> exact absurd same (by decide)
      refine ⟨?_, List.forall_mem_singleton.mpr regular⟩
      unfold Visit.result at made ⊢
      cases outcome : visit.outcome with
      | ok results =>
          rw [outcome] at made
          exact .through made begins plain
      | error trap =>
          rw [outcome] at made
          exact .stopped made

/-- What a context that is made a main context has called of its guest. -/
theorem Opens.made (main : before.1.id = mainContext) (unbound : before.1.bridge = none)
    (opens : Opens host others before visits result after) :
    ∃ block, ((visits = [] ∧ ∃ fault, result = .error fault ∧ host.Unlaid mainContext fault) ∨
        Made (host.startCalls ++ host.storageCalls block) visits result) ∧
      (∀ visit ∈ visits, visit.Regular host others block) ∧
      (result = .ok () → host.Bound after) := by
  cases opens with
  | unstarted starts =>
      refine ⟨0, ?_, starts.regular main unbound, nofun⟩
      exact (starts.made main).imp_right fun stopped => stopped.stop _
  | started starts stores =>
      obtain ⟨block, late, regular, bound⟩ := stores.made (starts.bound unbound)
      refine ⟨block, .inr ?_, List.forall_mem_append.mpr ⟨starts.regular main unbound, regular⟩,
        fun _ => ⟨bound.bridge, bound.home⟩⟩
      rcases starts.made main with ⟨-, _, impossible, -⟩ | early
      · cases impossible
      · exact early.append late

/-- A main context that has no bridge yet begins in order. -/
theorem Begins.inOrder (main : before.1.id = mainContext) (unbound : before.1.bridge = none)
    (begins : Begins host others before visits result after) :
    ∃ block, host.InOrder others block visits result := by
  cases begins with
  | @unopened visits fault after opens =>
      obtain ⟨block, made, regular, -⟩ := opens.made main unbound
      have comes : host.Comes block visits (.error fault) := by
        rcases made with ⟨rfl, fault, same, unlaid⟩ | stopped
        · cases same
          exact .unlaid unlaid
        · exact .stopped (stopped.stop _)
      exact ⟨block, comes.calls_prefix, comes, regular⟩
  | opened opens enters =>
      obtain ⟨block, made, early, bound⟩ := opens.made main unbound
      rcases made with ⟨-, _, impossible, -⟩ | made
      · cases impossible
      · obtain ⟨comes, late⟩ := enters.comes (bound rfl) made
        exact ⟨block, comes.calls_prefix, comes, List.forall_mem_append.mpr ⟨early, late⟩⟩

end Beginning

/--
What a main context does until its guest is through comes to the ends of its steps.  The guest
is called in order then: with the start function, with the two functions for the local storage,
and with the function it begins with, up to the first call that traps.  Only the start function
does not find the bridge bound.
-/
theorem main_begins_in_order (host : Host) (others : Shared → Shared → Prop) (shared : Shared)
    (result : Except Fault Unit) (after : Moment) :
    ((do host.openMain; host.callMain host.entry : Attempt Unit).run.EndsAmid others
        (Context.new host mainContext, shared) result after ↔
      ∃ visits, Beginning.Begins host others (Context.new host mainContext, shared) visits result
        after) ∧
    ∀ visits, Beginning.Begins host others (Context.new host mainContext, shared) visits result
        after → ∃ block, host.InOrder others block visits result :=
  ⟨Beginning.endsAmid_begin_iff rfl, fun _ begins => begins.inOrder rfl rfl⟩

/-- A host of a module that imports its memory under the name of the delivering function. -/
def Host.clashing : Host :=
  .ofModule "clashing" { imports := [⟨"env", Wasm.Abi.deliver, .memory { minimum := 1 }⟩] }
    (.separate ⟨"env", Wasm.Abi.deliver, 32, 16384⟩)

/-- Two definitions of one name are refused before anything of the guest is called, and not as a
fault of the instance. -/
theorem clashing_main_is_refused :
    Host.clashing.config.validate = .ok () ∧
      MemoryPlan.forModule Host.clashing.config Host.clashing.module = .ok Host.clashing.plan ∧
      ∃ fault after, (do
          Host.clashing.openMain
          Host.clashing.callMain Host.clashing.entry : Attempt Unit).run.EndsAtOnce
            (Context.new Host.clashing mainContext, {}) (.error fault) after ∧
        fault = .engine
          "failed to define env.kwasm_message_to_host: import of that name defined twice" ∧
        (∀ id cause, fault ≠ .instantiationFailure id cause) ∧
        (∀ name cause, fault ≠ .guestTrap name cause) ∧ ∀ name, fault ≠ .missingExport name :=
  ⟨rfl, rfl, _, (_, _), rfl, rfl, nofun, nofun, nofun⟩

end WasmBridge
