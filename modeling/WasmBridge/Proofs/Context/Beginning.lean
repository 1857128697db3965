import WasmBridge.Proofs.Context.Linking
import WasmBridge.Proofs.Context.Results
import WasmBridge.Proofs.Context.Unbound
import WasmBridge.Proofs.Worker.Deeds

/-!
# How a main context begins

A main context is laid out, runs its start function, is bound to its memory, gets its local
storage and lets its guest begin, in this order and up to the first step that fails.  What of the
guest is called on the way is told as a list of visits.
-/

namespace WasmBridge

open Activity

variable {host : Host} {again : Reentry} {others : Shared → Shared → Prop}
  {before middle after : Moment}

/-! ## Laying out an instance -/

namespace Host

/-- Bind the imports of the module, set up its memory and globals and put its bytes into the
memory. -/
def layOut (host : Host) (stubs : Bool) : Attempt Unit := do
  let id := (← (get : Activity Context)).id
  let linker ← host.linker stubs
  match linker.unbound? host.module with
  | some item =>
    throw (instantiationFault id s!"unknown or incompatible import {item.qualified}")
  | none =>
    (modify fun context =>
      { context with home := host.home, globals := host.module.initialGlobals } : Activity Unit)
    putSegments host.module.segments

theorem instantiate_eq (host : Host) (again : Reentry) (stubs : Bool) :
    host.instantiate again stubs = (do
      host.layOut stubs
      host.runStart again) := by
  simp only [instantiate, layOut, bind_assoc]
  refine congrArg _ (funext fun context => congrArg _ (funext fun linker => ?_))
  cases linker.unbound? host.module with
  | some item => rfl
  | none => rw [bind_assoc]

/-- A fault for which an instance is not laid out: two things are to be defined under the name of
the delivering function, or an import or the bytes of the module do not fit. -/
inductive Unlaid (host : Host) (id : UInt32) : Fault → Prop where
  | clash (clashes : host.plan.Clashes) (cause : String) : Unlaid host id (.engine cause)
  | unfit (apart : ¬ host.plan.Clashes) (cause : String) :
      Unlaid host id (.instantiationFailure id cause)

/-- What is known of an instance that was laid out, or could not be. -/
structure LaysOut (host : Host) (before : Moment) (result : Except Fault Unit) (after : Moment) :
    Prop where
  number : after.1.id = before.1.id
  bridge : after.1.bridge = before.1.bridge
  home : result = .ok () → host.home.Remains after.1.home
  fault : ∀ fault, result = .error fault → host.Unlaid before.1.id fault

theorem layOut_atOnce (host : Host) (stubs : Bool) (before : Moment) :
    ∃ result after, (host.layOut stubs).run.EndsAtOnce before result after ∧
      host.LaysOut before result after := by
  have got : (get : Activity Context).EndsAtOnce before before.1 before := rfl
  have linked := linker_atOnce host stubs before
  by_cases clashes : host.plan.Clashes
  · obtain ⟨cause, refused⟩ := Linker.forModule_of_clashes clashes host.module
      (host.plan.pagesNow before.2) stubs
    rw [refused] at linked
    refine ⟨_, before, .run_bind (.run_lift got) (.run_bind_error linked), rfl, rfl, nofun, ?_⟩
    intro fault same
    cases same
    exact .clash clashes cause
  · obtain ⟨linker, found⟩ := Linker.exists_forModule clashes host.module
      (host.plan.pagesNow before.2) stubs
    rw [found] at linked
    cases missing : linker.unbound? host.module with
    | some item =>
        have refused : (host.layOut stubs).run.EndsAtOnce before (.error (instantiationFault
            before.1.id s!"unknown or incompatible import {item.qualified}")) before := by
          refine .run_bind (.run_lift got) (.run_bind linked ?_)
          rw [missing]
          exact .of_throw _
        refine ⟨_, before, refused, rfl, rfl, nofun, fun fault same => ?_⟩
        cases same
        exact .unfit clashes _
    | none =>
        let settled : Context :=
          { before.1 with home := host.home, globals := host.module.initialGlobals }
        obtain ⟨result, after, ends, rewrites, faults⟩ :=
          putSegments_atOnce host.module.segments (settled, before.2)
        have step : ConfinedStep host (fun _ => True) _ after := .of_rewrites rewrites
        have set : (modify fun context => { context with
            home := host.home, globals := host.module.initialGlobals } :
              Activity Unit).EndsAtOnce before () (settled, before.2) := rfl
        refine ⟨result, after, .run_bind (.run_lift got) (.run_bind linked ?_),
          step.own.failures.1, step.keeps.context.bridge, fun _ => step.keeps.context.home, ?_⟩
        · rw [missing]
          exact .run_bind (.run_lift set) ends
        · intro fault failed
          obtain rfl := faults fault failed
          exact .unfit clashes _

theorem LaysOut.of_ends {stubs : Bool} {result : Except Fault Unit}
    (ends : (host.layOut stubs).run.EndsAtOnce before result after) :
    host.LaysOut before result after := by
  obtain ⟨_, _, also, lays⟩ := host.layOut_atOnce stubs before
  obtain ⟨rfl, rfl⟩ := ends.unique also
  exact lays

end Host

/-! ## Visits -/

/-- A function of the guest and its arguments. -/
abbrev GuestCall := Wasm.Designator × List Wasm.Value

/-- A call of the guest while its context begins, and what came of it. -/
structure Visit where
  target : Wasm.Designator
  args : List Wasm.Value
  before : Moment
  outcome : Except Guest.Trap (List Wasm.Value)
  after : Moment

namespace Visit

/-- What is called, and with what. -/
def call (visit : Visit) : GuestCall :=
  (visit.target, visit.args)

/-- The fault that a trap of the call ends in: the start function belongs to the instance, and
every other function is named. -/
def fault (visit : Visit) (trap : Guest.Trap) : Fault :=
  match visit.target with
  | .own _ => .instantiationFailure mainContext trap.text
  | .exported name => .guestTrap name trap.text

/-- What comes of the call. -/
def result (visit : Visit) : Except Fault Unit :=
  match visit.outcome with
  | .ok _ => .ok ()
  | .error trap => .error (visit.fault trap)

/-- At a moment a call is made, and it comes to an end. -/
structure Runs (host : Host) (others : Shared → Shared → Prop) (before : Moment) (call : GuestCall)
    (visit : Visit) : Prop where
  begins : visit.before = before
  calls : visit.call = call
  ends : (host.entry.call visit.target visit.args).EndsAmid others visit.before visit.outcome
    visit.after

variable {visit : Visit} {target : Wasm.Designator} {args : List Wasm.Value}

theorem Runs.exists_eq (runs : visit.Runs host others before (target, args)) :
    ∃ outcome after, visit = ⟨target, args, before, outcome, after⟩ ∧
      (host.entry.call target args).EndsAmid others before outcome after := by
  obtain ⟨own, given, start, outcome, after⟩ := visit
  obtain ⟨begins, calls, ends⟩ := runs
  cases calls
  cases begins
  exact ⟨outcome, after, rfl, ends⟩

/-- The guest leaves the number and the bridge of its context as they are. -/
theorem Runs.context {call : GuestCall} (runs : visit.Runs host others before call) :
    visit.after.1.id = before.1.id ∧ visit.after.1.bridge = before.1.bridge ∧
      before.1.home.Remains visit.after.1.home := by
  obtain ⟨outcome, after, rfl, ends⟩ := runs.exists_eq
  have kept := (host.keepsAmid_of_reentry others Host.greatestDepth).1 _ _ _ _ _ ends
  obtain ⟨messages, traced⟩ := (Traced.of_reentry host others Host.greatestDepth).1 _ _ _ _ _ ends
  exact ⟨traced.proceeds.number, kept.context.bridge, kept.context.home⟩

end Visit

/-! ## Steps -/

/-- The guest can be given the local storage of the main thread. -/
def Host.CanStore (host : Host) : Prop :=
  host.module.exportedFunction? Wasm.Abi.allocTls = some ⟨[], [.i32]⟩ ∧
    host.module.exportedFunction? Wasm.Abi.initTls = some ⟨[.i32], []⟩

/-- The guest begins with a function: `main`, or `_start` if no function is exported as
`main`. -/
inductive Host.BeginsWith (host : Host) : String → Wasm.FunctionType → Prop where
  | main {type : Wasm.FunctionType} (exported : host.module.exportedFunction? "main" = some type) :
      BeginsWith host "main" type
  | start {type : Wasm.FunctionType} (absent : host.module.exportedFunction? "main" = none)
      (exported : host.module.exportedFunction? "_start" = some type) :
      BeginsWith host "_start" type

/-- The moment after the bridge was bound, or its absence reported. -/
def Host.bindingAt (host : Host) (moment : Moment) : Moment :=
  match host.bridge? with
  | some bridge => ({ moment.1 with bridge := some bridge }, moment.2)
  | none => (moment.1, { moment.2 with log := moment.2.log.push (moment.1.id, .noLinearMemory) })

/-- The moment after the main context was reported to be set up. -/
def Moment.opened (moment : Moment) : Moment :=
  (moment.1, { moment.2 with
    log := moment.2.log.push (moment.1.id, .contextClosed mainContext .main) })

namespace Beginning

section

variable (host : Host) (others : Shared → Shared → Prop) (before : Moment)

/-- The instance is laid out, and its start function runs if it has one. -/
inductive Starts : List Visit → Except Fault Unit → Moment → Prop where
  | unlaid {fault : Fault} {after : Moment}
      (fails : (host.layOut host.config.stubImports).run.EndsAtOnce before (.error fault) after) :
      Starts [] (.error fault) after
  | plain {after : Moment}
      (laid : (host.layOut host.config.stubImports).run.EndsAtOnce before (.ok ()) after)
      (none : host.module.start = none) :
      Starts [] (.ok ()) after
  | started {name : String} {middle : Moment} {visit : Visit}
      (laid : (host.layOut host.config.stubImports).run.EndsAtOnce before (.ok ()) middle)
      (some : host.module.start = some name)
      (runs : visit.Runs host others middle (.own name, [])) :
      Starts [visit] visit.result visit.after

/-- The guest makes room for the local storage of the main thread and prepares it, if it can do
both. -/
inductive Stores : List Visit → Except Fault Unit → Moment → Prop where
  | skipped (unable : ¬ host.CanStore) : Stores [] (.ok ()) before
  | unallocated {visit : Visit} {trap : Guest.Trap} (able : host.CanStore)
      (allocates : visit.Runs host others before (.exported Wasm.Abi.allocTls, []))
      (trapped : visit.outcome = .error trap) :
      Stores [visit] visit.result visit.after
  | allocated {visit next : Visit} {block : UInt32} (able : host.CanStore)
      (allocates : visit.Runs host others before (.exported Wasm.Abi.allocTls, []))
      (answered : visit.outcome = .ok [.word block])
      (prepares : next.Runs host others visit.after
        (.exported Wasm.Abi.initTls, [.word block])) :
      Stores [visit, next] next.result next.after

/-- The guest is entered with zeros. -/
inductive Enters : List Visit → Except Fault Unit → Moment → Prop where
  | missing (main : host.module.exportedFunction? "main" = none)
      (start : host.module.exportedFunction? "_start" = none) :
      Enters [] (.error (.missingExport "main or _start")) before
  | demanding {name : String} {type : Wasm.FunctionType} {parameter : Wasm.ValueType}
      (begins : host.BeginsWith name type)
      (reference : type.parameters.find? (·.isReference) = some parameter) :
      Enters [] (.error (.guestTrap name s!"entry point takes a {parameter.describe} parameter"))
        before
  | entered {name : String} {type : Wasm.FunctionType} {visit : Visit}
      (begins : host.BeginsWith name type)
      (plain : ∀ parameter ∈ type.parameters, parameter.isReference = false)
      (runs : visit.Runs host others before (.exported name, type.parameters.map .initial)) :
      Enters [visit] visit.result visit.after

/-- The context is made a main context. -/
inductive Opens : List Visit → Except Fault Unit → Moment → Prop where
  | unstarted {visits : List Visit} {fault : Fault} {after : Moment}
      (starts : Starts host others before visits (.error fault) after) :
      Opens visits (.error fault) after.opened
  | started {early late : List Visit} {result : Except Fault Unit} {middle after : Moment}
      (starts : Starts host others before early (.ok ()) middle)
      (stores : Stores host others (host.bindingAt middle) late result after) :
      Opens (early ++ late) result after.opened

/-- The context is made a main context and lets its guest begin. -/
inductive Begins : List Visit → Except Fault Unit → Moment → Prop where
  | unopened {visits : List Visit} {fault : Fault} {after : Moment}
      (opens : Opens host others before visits (.error fault) after) :
      Begins visits (.error fault) after
  | opened {early late : List Visit} {result : Except Fault Unit} {middle after : Moment}
      (opens : Opens host others before early (.ok ()) middle)
      (enters : Enters host others middle late result after) :
      Begins (early ++ late) result after

end

/-! ## What the steps come to -/

variable {result : Except Fault Unit}

/-- The start function of an instance, with its trap as a fault of the instance. -/
theorem endsAmid_runStart_iff {name : String} (start : host.module.start = some name)
    (main : before.1.id = mainContext) :
    (host.runStart host.entry).run.EndsAmid others before result after ↔
      ∃ visit : Visit, visit.Runs host others before (.own name, []) ∧ result = visit.result ∧
        after = visit.after := by
  have trapped (last : Moment) (trap : Guest.Trap) : (do
      throw (Host.instantiationFault (← (get : Activity Context)).id trap.text) :
        Attempt Unit).run.EndsAtOnce last
      (.error (.instantiationFailure last.1.id trap.text)) last := rfl
  have number {visit : Visit} (runs : visit.Runs host others before (.own name, [])) :
      visit.after.1.id = mainContext := runs.context.1.trans main
  unfold Host.runStart
  rw [start]
  dsimp only
  rw [endsAmid_run_bind_iff]
  constructor
  · rintro (⟨error, lifted, -⟩ | ⟨outcome, middle, lifted, rest⟩)
    · obtain ⟨_, impossible, -⟩ := endsAmid_run_lift_iff.mp lifted
      cases impossible
    · obtain ⟨_, same, ends⟩ := endsAmid_run_lift_iff.mp lifted
      cases same
      have runs : Visit.Runs host others before (.own name, [])
          ⟨.own name, [], before, outcome, middle⟩ := ⟨rfl, rfl, ends⟩
      refine ⟨_, runs, ?_⟩
      cases outcome with
      | ok results => exact endsAmid_pure_iff.mp rest
      | error trap =>
          rw [(trapped middle trap).endsAmid_iff, number runs] at rest
          exact rest
  · rintro ⟨visit, runs, rfl, rfl⟩
    have own := number runs
    obtain ⟨outcome, last, rfl, ends⟩ := runs.exists_eq
    refine .inr ⟨outcome, last, endsAmid_run_lift_iff.mpr ⟨_, rfl, ends⟩, ?_⟩
    cases outcome with
    | ok results => exact endsAmid_pure_iff.mpr ⟨rfl, rfl⟩
    | error trap =>
        rw [(trapped last trap).endsAmid_iff, own]
        exact ⟨rfl, rfl⟩

theorem endsAmid_instantiate_iff (main : before.1.id = mainContext) :
    (host.instantiate host.entry host.config.stubImports).run.EndsAmid others before result after ↔
      ∃ visits, Starts host others before visits result after := by
  rw [Host.instantiate_eq]
  obtain ⟨first, middle, laid, lays⟩ := host.layOut_atOnce host.config.stubImports before
  cases first with
  | error fault =>
      rw [(EndsAtOnce.run_bind_error laid).endsAmid_iff]
      constructor
      · rintro ⟨rfl, rfl⟩
        exact ⟨[], .unlaid laid⟩
      · rintro ⟨visits, starts⟩
        cases starts with
        | unlaid fails => exact laid.unique fails
        | plain settled | started settled => cases (settled.unique laid).1
  | ok value =>
      rw [laid.run_endsAmid_bind_iff]
      cases start : host.module.start with
      | none =>
          have done : (host.runStart host.entry).run.EndsAtOnce middle (.ok ()) middle := by
            unfold Host.runStart
            rw [start]
            exact .run_pure ()
          rw [done.endsAmid_iff]
          constructor
          · rintro ⟨rfl, rfl⟩
            exact ⟨[], .plain laid start⟩
          · rintro ⟨visits, starts⟩
            cases starts with
            | unlaid fails => cases (fails.unique laid).1
            | plain settled => exact ⟨rfl, (laid.unique settled).2⟩
            | started _ some => cases some.symm.trans start
      | some name =>
          rw [endsAmid_runStart_iff start (lays.number.trans main)]
          constructor
          · rintro ⟨visit, runs, rfl, rfl⟩
            exact ⟨_, .started laid start runs⟩
          · rintro ⟨visits, starts⟩
            cases starts with
            | unlaid fails => cases (fails.unique laid).1
            | plain _ none => cases none.symm.trans start
            | started settled some runs =>
                cases some.symm.trans start
                obtain ⟨-, rfl⟩ := settled.unique laid
                exact ⟨_, runs, rfl, rfl⟩

/-- A call of an export, with its trap as a fault. -/
theorem endsAmid_enter_iff {name : String} {args : List Wasm.Value} :
    (do let _ ← host.entry.enter name args; return () : Attempt Unit).run.EndsAmid others before
        result after ↔
      ∃ visit : Visit, visit.Runs host others before (.exported name, args) ∧
        result = visit.result ∧ after = visit.after := by
  rw [Reentry.run_enter_bind, endsAmid_bind_iff]
  constructor
  · rintro ⟨outcome, middle, ends, rest⟩
    refine ⟨⟨.exported name, args, before, outcome, middle⟩, ⟨rfl, rfl, ends⟩, ?_⟩
    cases outcome with
    | ok results => exact endsAmid_pure_iff.mp rest
    | error trap => exact endsAmid_pure_iff.mp rest
  · rintro ⟨visit, runs, rfl, rfl⟩
    obtain ⟨outcome, last, rfl, ends⟩ := runs.exists_eq
    refine ⟨outcome, last, ends, ?_⟩
    cases outcome with
    | ok results => exact endsAmid_pure_iff.mpr ⟨rfl, rfl⟩
    | error trap => exact endsAmid_pure_iff.mpr ⟨rfl, rfl⟩

theorem canStore_iff :
    (host.module.exportsFunction Wasm.Abi.allocTls Wasm.Abi.allocTlsType &&
      host.module.exportsFunction Wasm.Abi.initTls Wasm.Abi.wordType) = true ↔ host.CanStore := by
  rw [Bool.and_eq_true, Wasm.Module.exportsFunction, Wasm.Module.exportsFunction, beq_iff_eq,
    beq_iff_eq]
  rfl

/-- The function that makes room answers with one word. -/
theorem exists_block {results : List Wasm.Value} (able : host.CanStore)
    (ends : (host.entry.call (.exported Wasm.Abi.allocTls) []).EndsAmid others before (.ok results)
      after) :
    ∃ block, results = [.word block] :=
  Wasm.ValueType.exists_word_of_admits (Guest.admits_of_call able.1 ends)

theorem endsAmid_initMainStorage_iff :
    (host.initMainStorage host.entry).run.EndsAmid others before result after ↔
      ∃ visits, Stores host others before visits result after := by
  unfold Host.initMainStorage
  by_cases able : host.CanStore
  · rw [if_pos (canStore_iff.mpr able), Reentry.run_enterWithWords_bind, endsAmid_bind_iff]
    constructor
    · rintro ⟨outcome, middle, ends, rest⟩
      have runs : Visit.Runs host others before (.exported Wasm.Abi.allocTls, [])
          ⟨.exported Wasm.Abi.allocTls, [], before, outcome, middle⟩ := ⟨rfl, rfl, ends⟩
      cases outcome with
      | error trap =>
          obtain ⟨rfl, rfl⟩ := endsAmid_pure_iff.mp rest
          exact ⟨_, .unallocated able runs rfl⟩
      | ok results =>
          obtain ⟨block, rfl⟩ := exists_block able ends
          obtain ⟨next, follows, rfl, rfl⟩ := endsAmid_enter_iff.mp rest
          exact ⟨_, .allocated able runs rfl follows⟩
    · rintro ⟨visits, stores⟩
      cases stores with
      | skipped unable => exact absurd able unable
      | unallocated _ runs trapped =>
          obtain ⟨outcome, last, rfl, ends⟩ := runs.exists_eq
          cases trapped
          exact ⟨_, last, ends, endsAmid_pure_iff.mpr ⟨rfl, rfl⟩⟩
      | allocated _ runs answered follows =>
          obtain ⟨outcome, last, rfl, ends⟩ := runs.exists_eq
          cases answered
          exact ⟨_, last, ends, endsAmid_enter_iff.mpr ⟨_, follows, rfl, rfl⟩⟩
  · rw [if_neg (mt canStore_iff.mp able), ExceptT.run_pure, endsAmid_pure_iff]
    constructor
    · rintro ⟨rfl, rfl⟩
      exact ⟨[], .skipped able⟩
    · rintro ⟨visits, stores⟩
      cases stores with
      | skipped => exact ⟨rfl, rfl⟩
      | unallocated possible | allocated possible => exact absurd possible able

/-! ### Where the guest begins -/

theorem mainEntry?_eq (host : Host) :
    host.mainEntry? = ((host.module.exportedFunction? "main").map ("main", ·)).or
      ((host.module.exportedFunction? "_start").map ("_start", ·)) := by
  unfold Host.mainEntry? Wasm.Abi.mainEntries
  rw [List.findSome?_cons, List.findSome?_cons, List.findSome?_nil]
  cases host.module.exportedFunction? "main" with
  | some type => rfl
  | none => cases host.module.exportedFunction? "_start" <;> rfl

theorem mainEntry?_eq_some_iff {name : String} {type : Wasm.FunctionType} :
    host.mainEntry? = some (name, type) ↔ host.BeginsWith name type := by
  rw [mainEntry?_eq]
  constructor
  · intro found
    cases main : host.module.exportedFunction? "main" with
    | some own =>
        rw [main] at found
        cases found
        exact .main main
    | none =>
        rw [main, Option.map_none, Option.none_or, Option.map_eq_some_iff] at found
        obtain ⟨own, start, same⟩ := found
        cases same
        exact .start main start
  · intro begins
    cases begins with
    | main exported => rw [exported]; rfl
    | start absent exported => rw [absent, exported]; rfl

theorem mainEntry?_eq_none_iff :
    host.mainEntry? = none ↔ host.module.exportedFunction? "main" = none ∧
      host.module.exportedFunction? "_start" = none := by
  rw [mainEntry?_eq, Option.or_eq_none_iff, Option.map_eq_none_iff, Option.map_eq_none_iff]

/-- The guest can be entered with zeros unless a parameter is a reference. -/
theorem mainArguments_eq (name : String) (types : List Wasm.ValueType) :
    Host.mainArguments name types =
      match types.find? (·.isReference) with
      | some type => .error (.guestTrap name s!"entry point takes a {type.describe} parameter")
      | none => .ok (types.map .initial) := by
  induction types with
  | nil => rfl
  | cons type rest ih =>
      rw [Host.mainArguments, List.find?_cons, Wasm.Value.default?]
      cases reference : type.isReference with
      | true => rfl
      | false =>
          rw [ih]
          cases rest.find? (·.isReference) <;> rfl

theorem unique_of_beginsWith {name other : String} {type own : Wasm.FunctionType}
    (begins : host.BeginsWith name type) (also : host.BeginsWith other own) :
    other = name ∧ own = type := by
  cases (mainEntry?_eq_some_iff.mpr begins).symm.trans (mainEntry?_eq_some_iff.mpr also)
  exact ⟨rfl, rfl⟩

theorem not_missing_of_beginsWith {name : String} {type : Wasm.FunctionType}
    (begins : host.BeginsWith name type) (main : host.module.exportedFunction? "main" = none) :
    host.module.exportedFunction? "_start" ≠ none := fun start => by
  cases (mainEntry?_eq_some_iff.mpr begins).symm.trans (mainEntry?_eq_none_iff.mpr ⟨main, start⟩)

/-- What comes of the function with which the guest begins. -/
theorem endsAmid_enterMain_iff {name : String} {type : Wasm.FunctionType}
    (begins : host.BeginsWith name type) :
    (do
      let args ← ExceptT.mk (pure (Host.mainArguments name type.parameters))
      let _ ← host.entry.enter name args
      return () : Attempt Unit).run.EndsAmid others before result after ↔
      ∃ visits, Enters host others before visits result after := by
  rw [mainArguments_eq]
  cases reference : type.parameters.find? (·.isReference) with
  | some parameter =>
      rw [(EndsAtOnce.run_bind_error (.of_except _)).endsAmid_iff]
      constructor
      · rintro ⟨rfl, rfl⟩
        exact ⟨[], .demanding begins reference⟩
      · rintro ⟨visits, enters⟩
        cases enters with
        | missing main start => exact absurd start (not_missing_of_beginsWith begins main)
        | demanding also refers =>
            obtain ⟨rfl, rfl⟩ := unique_of_beginsWith begins also
            cases reference.symm.trans refers
            exact ⟨rfl, rfl⟩
        | entered also plain =>
            obtain ⟨rfl, rfl⟩ := unique_of_beginsWith begins also
            have member := List.mem_of_find?_eq_some reference
            have refers := List.find?_some reference
            rw [plain parameter member] at refers
            cases refers
  | none =>
      have plain (parameter) (member : parameter ∈ type.parameters) :
          parameter.isReference = false := by
        simpa using List.find?_eq_none.mp reference parameter member
      rw [EndsAtOnce.run_endsAmid_bind_iff (.of_except _), endsAmid_enter_iff]
      constructor
      · rintro ⟨visit, runs, rfl, rfl⟩
        exact ⟨_, .entered begins plain runs⟩
      · rintro ⟨visits, enters⟩
        cases enters with
        | missing main start => exact absurd start (not_missing_of_beginsWith begins main)
        | demanding also refers =>
            obtain ⟨rfl, rfl⟩ := unique_of_beginsWith begins also
            cases reference.symm.trans refers
        | entered also _ runs =>
            obtain ⟨rfl, rfl⟩ := unique_of_beginsWith begins also
            exact ⟨_, runs, rfl, rfl⟩

theorem endsAmid_callMain_iff :
    (host.callMain host.entry).run.EndsAmid others before result after ↔
      ∃ visits, Enters host others before visits result after := by
  unfold Host.callMain
  cases entry : host.mainEntry? with
  | none =>
      obtain ⟨main, start⟩ := mainEntry?_eq_none_iff.mp entry
      rw [(EndsAtOnce.of_throw _).endsAmid_iff]
      constructor
      · rintro ⟨rfl, rfl⟩
        exact ⟨[], .missing main start⟩
      · rintro ⟨visits, enters⟩
        cases enters with
        | missing => exact ⟨rfl, rfl⟩
        | demanding begins | entered begins =>
            exact absurd start (not_missing_of_beginsWith begins main)
  | some found => exact endsAmid_enterMain_iff (mainEntry?_eq_some_iff.mp entry)

theorem endsAmid_startMain_iff (main : before.1.id = mainContext) :
    (host.startMain host.entry).run.EndsAmid others before result after ↔
      (∃ visits fault, Starts host others before visits (.error fault) after ∧
        result = .error fault) ∨
      ∃ early late middle, Starts host others before early (.ok ()) middle ∧
        Stores host others (host.bindingAt middle) late result after := by
  have follows (moment : Moment) : (do
      match host.bridge? with
      | some bridge => (Host.bindBridge bridge : Activity Unit)
      | none => (Activity.report .noLinearMemory : Activity Unit)
      host.initMainStorage host.entry : Attempt Unit).run.EndsAmid others moment result after ↔
        (host.initMainStorage host.entry).run.EndsAmid others (host.bindingAt moment) result
          after := by
    unfold Host.bindingAt
    cases host.bridge? with
    | some bridge =>
        have binds : (Host.bindBridge bridge).EndsAtOnce moment ()
          ({ moment.1 with bridge := some bridge }, moment.2) := rfl
        exact binds.run_lift.run_endsAmid_bind_iff
    | none =>
        have reports : (Activity.report .noLinearMemory).EndsAtOnce moment ()
          (moment.1, { moment.2 with log := moment.2.log.push (moment.1.id, .noLinearMemory) }) :=
          rfl
        exact reports.run_lift.run_endsAmid_bind_iff
  unfold Host.startMain
  rw [endsAmid_run_bind_iff]
  constructor
  · rintro (⟨fault, ends, rfl⟩ | ⟨_, middle, ends, rest⟩)
    · obtain ⟨visits, starts⟩ := (endsAmid_instantiate_iff main).mp ends
      exact .inl ⟨visits, fault, starts, rfl⟩
    · obtain ⟨early, starts⟩ := (endsAmid_instantiate_iff main).mp ends
      obtain ⟨late, stores⟩ := endsAmid_initMainStorage_iff.mp ((follows middle).mp rest)
      exact .inr ⟨early, late, middle, starts, stores⟩
  · rintro (⟨visits, fault, starts, rfl⟩ | ⟨early, late, middle, starts, stores⟩)
    · exact .inl ⟨fault, (endsAmid_instantiate_iff main).mpr ⟨visits, starts⟩, rfl⟩
    · refine .inr ⟨(), middle, (endsAmid_instantiate_iff main).mpr ⟨early, starts⟩, ?_⟩
      exact (follows middle).mpr (endsAmid_initMainStorage_iff.mpr ⟨late, stores⟩)

theorem endsAmid_openMain_iff (main : before.1.id = mainContext) :
    host.openMain.run.EndsAmid others before result after ↔
      ∃ visits, Opens host others before visits result after := by
  have reported (last : Moment) (result : Except Fault Unit) : (do
      Activity.report (.contextClosed mainContext .main)
      return result).EndsAtOnce last result last.opened := rfl
  change Activity.EndsAmid others ((host.startMain host.entry).run >>= fun result => do
    Activity.report (.contextClosed mainContext .main)
    return result) before result after ↔ _
  rw [endsAmid_bind_iff]
  constructor
  · rintro ⟨outcome, middle, ends, rest⟩
    obtain ⟨rfl, rfl⟩ := (reported middle outcome).endsAmid_iff.mp rest
    rcases (endsAmid_startMain_iff main).mp ends with
      ⟨visits, fault, starts, rfl⟩ | ⟨early, late, settled, starts, stores⟩
    · exact ⟨visits, .unstarted starts⟩
    · exact ⟨_, .started starts stores⟩
  · rintro ⟨visits, opens⟩
    cases opens with
    | unstarted starts =>
        exact ⟨_, _, (endsAmid_startMain_iff main).mpr (.inl ⟨_, _, starts, rfl⟩),
          (reported _ _).endsAmid⟩
    | started starts stores =>
        exact ⟨_, _, (endsAmid_startMain_iff main).mpr (.inr ⟨_, _, _, starts, stores⟩),
          (reported _ _).endsAmid⟩

/-- What a main context does until its guest is through comes to the ends of its steps. -/
theorem endsAmid_begin_iff (main : before.1.id = mainContext) :
    (do host.openMain; host.callMain host.entry : Attempt Unit).run.EndsAmid others before result
        after ↔
      ∃ visits, Begins host others before visits result after := by
  rw [endsAmid_run_bind_iff]
  constructor
  · rintro (⟨fault, ends, rfl⟩ | ⟨_, middle, ends, rest⟩)
    · obtain ⟨visits, opens⟩ := (endsAmid_openMain_iff main).mp ends
      exact ⟨visits, .unopened opens⟩
    · obtain ⟨early, opens⟩ := (endsAmid_openMain_iff main).mp ends
      obtain ⟨late, enters⟩ := endsAmid_callMain_iff.mp rest
      exact ⟨_, .opened opens enters⟩
  · rintro ⟨visits, begins⟩
    cases begins with
    | unopened opens => exact .inl ⟨_, (endsAmid_openMain_iff main).mpr ⟨_, opens⟩, rfl⟩
    | opened opens enters =>
        exact .inr ⟨(), _, (endsAmid_openMain_iff main).mpr ⟨_, opens⟩,
          endsAmid_callMain_iff.mpr ⟨_, enters⟩⟩

end Beginning

end WasmBridge
