import Mathlib.Data.List.Nodup
import WasmBridge.Proofs.Worker.Following
import WasmBridge.Proofs.Worker.Start
import WasmBridge.Wasm.Report

/-!
# What a report promises

A report says by the names of exported functions what a module can do, and running it looks
for functions of certain types.  The two agree on where the guest begins.  On the entry of a
worker and on room for bytes they agree unless a function of the name has another type; then
the report promises what is missing.
-/

namespace WasmBridge

open Activity

/-! ## Exported names -/

namespace Wasm

theorem repeated?_eq_none_iff (names : List String) : repeated? names = none ↔ names.Nodup := by
  induction names with
  | nil => simp [repeated?]
  | cons name rest ih =>
      rw [repeated?, List.nodup_cons, ← ih]
      cases again : rest.contains name with
      | true => simp [List.contains_iff_mem.mp again]
      | false =>
          have fresh : name ∉ rest := by simpa using again
          simp [fresh]

theorem ExternType.kind_eq_func_iff {type : ExternType} :
    type.kind = "func" ↔ ∃ own, type = .function own := by
  cases type <;> simp [kind]

namespace Module

variable {module : Module} {threads : Bool} {name : String} {type : FunctionType}

/-- A valid module exports nothing twice. -/
theorem nodup_exports (valid : module.invalid? threads = none) :
    (module.exports.map Export.name).Nodup := by
  rw [← repeated?_eq_none_iff]
  have names := (Option.or_eq_none_iff.mp valid).2
  exact Option.map_eq_none_iff.mp names

theorem hasFunction_iff : module.hasFunction name = true ↔
    ∃ item ∈ module.exports, item.name = name ∧ ∃ own, item.type = .function own := by
  simp only [hasFunction, List.any_eq_true, Bool.and_eq_true, beq_iff_eq,
    ExternType.kind_eq_func_iff]

theorem export?_eq_some_iff (valid : module.invalid? threads = none) {asked : ExternType} :
    module.export? name = some asked ↔
      ∃ item ∈ module.exports, item.name = name ∧ item.type = asked := by
  unfold export?
  rw [Option.map_eq_some_iff]
  constructor
  · rintro ⟨item, found, typed⟩
    exact ⟨item, List.mem_of_find?_eq_some found, by simpa using List.find?_some found, typed⟩
  · rintro ⟨item, member, named, typed⟩
    obtain ⟨first, found⟩ : ∃ first, module.exports.find? (·.name == name) = some first := by
      rw [← Option.isSome_iff_exists, List.find?_isSome]
      exact ⟨item, member, beq_iff_eq.mpr named⟩
    have same : first.name = item.name := by
      rw [named]
      simpa using List.find?_some found
    have one := List.inj_on_of_nodup_map (nodup_exports valid) (List.mem_of_find?_eq_some found)
      member same
    exact ⟨first, found, by rw [one, typed]⟩

theorem exportedFunction?_eq_some_iff :
    module.exportedFunction? name = some type ↔ module.export? name = some (.function type) := by
  unfold exportedFunction?
  split
  next own found => simp [found]
  next other =>
    simp only [reduceCtorEq, false_iff]
    exact other type

/-- What a report finds by name and kind is the function that is exported under the name. -/
theorem hasFunction_eq (valid : module.invalid? threads = none) (name : String) :
    module.hasFunction name = (module.exportedFunction? name).isSome := by
  rw [Bool.eq_iff_iff, hasFunction_iff, Option.isSome_iff_exists]
  simp only [exportedFunction?_eq_some_iff, export?_eq_some_iff valid]
  constructor
  · rintro ⟨item, member, named, own, typed⟩
    exact ⟨own, item, member, named, typed⟩
  · rintro ⟨own, item, member, named, typed⟩
    exact ⟨item, member, named, own, typed⟩

theorem hasFunction_of_exportsFunction (valid : module.invalid? threads = none)
    (exported : module.exportsFunction name type = true) : module.hasFunction name = true := by
  have found : module.exportedFunction? name = some type := eq_of_beq exported
  rw [hasFunction_eq valid, found]
  rfl

/-- A function with which a worker can be entered is exported with the type for it. -/
def StartsWorkers (module : Module) : Prop :=
  module.exportsFunction Abi.workerEntry Abi.wordType = true ∨
    module.exportsFunction Abi.threadStart Abi.threadStartType = true

/-- If a function is exported under one of the names for the entry of a worker, one is with
the type for it. -/
def EntryTyped (module : Module) : Prop :=
  module.hasFunction Abi.workerEntry = true ∨ module.hasFunction Abi.threadStart = true →
    module.StartsWorkers

/-- The function that makes room for bytes has the type for it, if a function is exported
under the name. -/
def ReserveTyped (module : Module) : Prop :=
  module.hasFunction Abi.reserveSpace = true →
    module.exportsFunction Abi.reserveSpace Abi.reserveSpaceType = true

end Module

end Wasm

/-! ## Ends for want of an export -/

/-- An attempt can end because the guest does not export what is needed. -/
def Activity.EndsMissing {α : Type} (attempt : Attempt α) (others : Shared → Shared → Prop)
    (before : Moment) : Prop :=
  ∃ name after, attempt.run.EndsAmid others before (.error (.missingExport name)) after

namespace Activity.EndsMissing

variable {α β : Type} {again : Reentry} {others : Shared → Shared → Prop} {before : Moment}

theorem of_throw (name : String) :
    EndsMissing (throw (.missingExport name) : Attempt α) others before :=
  ⟨name, before, (EndsAtOnce.of_throw _).endsAmid⟩

theorem not_lift (activity : Activity α) :
    ¬ EndsMissing (liftM activity : Attempt α) others before := by
  rintro ⟨missing, after, ends⟩
  change EndsAmid others (activity >>= fun value => pure (Except.ok value)) _ _ _ at ends
  obtain ⟨value, middle, -, rest⟩ := endsAmid_bind_iff.mp ends
  cases (endsAmid_pure_iff.mp rest).1

theorem of_bind {attempt : Attempt α} {next : α → Attempt β} {value : α} {middle : Moment}
    (first : attempt.run.EndsAmid others before (.ok value) middle)
    (rest : EndsMissing (next value) others middle) :
    EndsMissing (attempt >>= next) others before := by
  obtain ⟨name, after, ends⟩ := rest
  refine ⟨name, after, ?_⟩
  rw [ExceptT.run_bind, endsAmid_bind_iff]
  exact ⟨.ok value, middle, first, ends⟩

theorem bind {attempt : Attempt α} {next : α → Attempt β}
    (missing : EndsMissing attempt others before) :
    EndsMissing (attempt >>= next) others before := by
  obtain ⟨name, after, ends⟩ := missing
  refine ⟨name, after, ?_⟩
  rw [ExceptT.run_bind, endsAmid_bind_iff]
  exact ⟨_, after, ends, endsAmid_pure_iff.mpr ⟨rfl, rfl⟩⟩

theorem cases_bind {attempt : Attempt α} {next : α → Attempt β}
    (missing : EndsMissing (attempt >>= next) others before) :
    EndsMissing attempt others before ∨
      ∃ value middle, EndsMissing (next value) others middle := by
  obtain ⟨name, after, ends⟩ := missing
  rw [ExceptT.run_bind, endsAmid_bind_iff] at ends
  obtain ⟨result, middle, first, rest⟩ := ends
  cases result with
  | error fault =>
      obtain ⟨same, rfl⟩ := endsAmid_pure_iff.mp rest
      cases same
      exact .inl ⟨name, after, first⟩
  | ok value => exact .inr ⟨value, middle, name, after, rest⟩

/-- A trap of an export is not the want of one. -/
theorem not_enter {name : String} {args : List Wasm.Value} :
    ¬ EndsMissing (again.enter name args >>= fun _ => pure ()) others before := by
  rintro ⟨missing, after, ends⟩
  rw [Reentry.run_enter_bind, endsAmid_bind_iff] at ends
  obtain ⟨outcome, middle, -, rest⟩ := ends
  cases outcome with
  | ok results => cases (endsAmid_pure_iff.mp rest).1
  | error trap => cases (endsAmid_pure_iff.mp rest).1

end Activity.EndsMissing

namespace Host

variable {host : Host} {again : Reentry} {others : Shared → Shared → Prop} {before : Moment}
  {launch : Wire.Launch}

/-! ### Where the guest begins -/

theorem mainEntry_iff (valid : host.module.invalid? host.config.threads = none) :
    host.compiled.report.mainEntry = true ↔ host.mainEntry?.isSome = true := by
  change Wasm.Abi.mainEntries.any host.module.hasFunction = true ↔ _
  unfold mainEntry?
  rw [List.any_eq_true, List.findSome?_isSome_iff]
  simp only [Wasm.Module.hasFunction_eq valid, Option.isSome_map]

theorem mainArguments_error {name : String} {types : List Wasm.ValueType} {fault : Fault}
    (refused : mainArguments name types = .error fault) :
    ∃ text, fault = .guestTrap name text := by
  induction types with
  | nil => cases refused
  | cons type rest ih =>
      rw [mainArguments] at refused
      split at refused
      · cases later : mainArguments name rest with
        | ok values =>
            rw [later] at refused
            cases refused
        | error cause =>
            rw [later] at refused
            cases refused
            exact ih later
      · cases refused
        exact ⟨_, rfl⟩

theorem endsMissing_callMain_iff :
    EndsMissing (host.callMain again) others before ↔ host.mainEntry? = none := by
  unfold callMain
  cases entry : host.mainEntry? with
  | none =>
      exact iff_of_true (.of_throw _) rfl
  | some found =>
      refine iff_of_false ?_ nofun
      obtain ⟨name, type⟩ := found
      dsimp only
      cases arguments : mainArguments name type.parameters with
      | error fault =>
          rintro ⟨missing, after, ends⟩
          obtain ⟨text, rfl⟩ := mainArguments_error arguments
          have refused := (EndsAtOnce.run_bind_error (.of_except _)).endsAmid_iff.mp ends
          cases refused.1
      | ok values => exact EndsMissing.not_enter

/-! ### Where a worker enters the guest -/

theorem missing_of_startStep {step : StartStep}
    (ends : EndsMissing (startStep again step) others before) : ∃ name, step = .missing name := by
  cases step with
  | missing name => exact ⟨name, rfl⟩
  | call name args => exact absurd ends EndsMissing.not_enter
  | setGlobal name type word =>
      dsimp only [startStep] at ends
      split at ends
      · exact absurd ends (EndsMissing.not_lift _)
      · obtain ⟨missing, after, ends⟩ := ends
        cases (endsAmid_pure_iff.mp ends).1
  | keepStackPointer stackPointer => exact absurd ends (EndsMissing.not_lift _)
  | enterRunning =>
      rcases EndsMissing.cases_bind ends with first | ⟨context, middle, later⟩
      · exact absurd first (EndsMissing.not_lift _)
      · exact absurd later (EndsMissing.not_lift _)

theorem missing_of_startSteps {steps : List StartStep}
    (ends : EndsMissing (startSteps again steps) others before) :
    ∃ name, StartStep.missing name ∈ steps := by
  induction steps generalizing before with
  | nil =>
      obtain ⟨missing, after, ends⟩ := ends
      cases (endsAmid_pure_iff.mp ends).1
  | cons step rest ih =>
      rcases EndsMissing.cases_bind ends with first | ⟨-, middle, later⟩
      · obtain ⟨name, rfl⟩ := missing_of_startStep first
        exact ⟨name, List.mem_cons_self⟩
      · obtain ⟨name, member⟩ := ih later
        exact ⟨name, List.mem_cons_of_mem step member⟩

/-- The steps of a worker's start before its entry can all be taken. -/
def Prepares (host : Host) (again : Reentry) (others : Shared → Shared → Prop) (before : Moment)
    (launch : Wire.Launch) : Prop :=
  ∃ after, (startSteps again (StartStep.stackPointer host.module launch.stackPointer ::
    StartStep.localStorage host.module launch.tlsPointer)).run.EndsAmid others before (.ok ())
    after

theorem missing_sequence {name : String}
    (member : .missing name ∈ StartStep.sequence host.module launch) :
    ¬ host.module.StartsWorkers := by
  unfold StartStep.sequence at member
  split at member
  · simp at member
  next other =>
    have entering : .missing name ∈ StartStep.entry host.module launch.entry := by
      rcases List.mem_append.mp member with early | late
      · rcases List.mem_cons.mp early with first | second
        · unfold StartStep.stackPointer at first
          split at first
          · cases first
          · split at first <;> cases first
        · unfold StartStep.localStorage at second
          split at second <;> simp at second
      · exact late
    unfold StartStep.entry at entering
    split at entering
    · simp at entering
    next absent => exact not_or.mpr ⟨absent, other⟩

theorem sequence_of_not_startsWorkers (unable : ¬ host.module.StartsWorkers) :
    StartStep.sequence host.module launch =
      StartStep.stackPointer host.module launch.stackPointer ::
        StartStep.localStorage host.module launch.tlsPointer ++
          [.missing Wasm.Abi.workerEntry] := by
  obtain ⟨absent, other⟩ := not_or.mp unable
  unfold StartStep.sequence StartStep.entry
  rw [if_neg other, if_neg absent]

/-- A worker lacks its entry if no function for it has the type for it. -/
theorem endsMissing_sequence_iff (prepares : host.Prepares again others before launch) :
    EndsMissing (startSteps again (StartStep.sequence host.module launch)) others before ↔
      ¬ host.module.StartsWorkers := by
  constructor
  · intro ends
    obtain ⟨name, member⟩ := missing_of_startSteps ends
    exact missing_sequence member
  · intro unable
    obtain ⟨middle, first⟩ := prepares
    rw [sequence_of_not_startsWorkers unable, startSteps_append]
    exact .of_bind first (.bind (.of_throw _))

theorem workerEntry_iff :
    host.compiled.report.workerEntry = true ↔
      host.module.hasFunction Wasm.Abi.workerEntry = true ∨
        host.module.hasFunction Wasm.Abi.threadStart = true :=
  Bool.or_eq_true_iff

/-- Under the names for it a worker's entry is promised where it is not lacking, if it has the
type for it. -/
theorem workerEntry_agrees_iff (valid : host.module.invalid? host.config.threads = none) :
    (host.compiled.report.workerEntry = true ↔ host.module.StartsWorkers) ↔
      host.module.EntryTyped := by
  rw [workerEntry_iff]
  constructor
  · intro agrees
    exact agrees.mp
  · intro typed
    refine ⟨typed, fun able => ?_⟩
    exact able.imp (Wasm.Module.hasFunction_of_exportsFunction valid)
      (Wasm.Module.hasFunction_of_exportsFunction valid)

/-! ### Room for bytes -/

theorem canReserve_of_bridge? {bridge : Bridge} (bound : host.bridge? = some bridge) :
    bridge.canReserve =
      host.module.exportsFunction Wasm.Abi.reserveSpace Wasm.Abi.reserveSpaceType := by
  unfold bridge? at bound
  split at bound
  · cases bound
    rfl
  · cases bound
    rfl
  · split at bound
    · split at bound
      · cases bound
        rfl
      · cases bound
    · cases bound

theorem reserveSpace_agrees_iff {bridge : Bridge} (bound : host.bridge? = some bridge)
    (valid : host.module.invalid? host.config.threads = none) :
    (host.compiled.report.reserveSpace = true ↔ bridge.canReserve = true) ↔
      host.module.ReserveTyped := by
  rw [canReserve_of_bridge? bound]
  exact ⟨fun agrees => agrees.mp,
    fun typed => ⟨typed, Wasm.Module.hasFunction_of_exportsFunction valid⟩⟩

end Host

/--
A report says of every valid module whether the guest of a main context lacks the function to
begin with.  It says whether a worker, the steps before its entry being taken, lacks that entry
exactly when a function under one of the names for it has the type for it, or there is none;
and it says whether the guest makes room for bytes exactly when the function of that name has
the type for it, or there is none.
-/
theorem report_agrees_with_running (host : Host) (again : Reentry)
    (others : Shared → Shared → Prop) (before : Moment) (launch : Wire.Launch)
    (valid : host.module.invalid? host.config.threads = none) :
    (host.compiled.report.mainEntry = true ↔ ¬ EndsMissing (host.callMain again) others before) ∧
    (host.Prepares again others before launch →
      ((host.compiled.report.workerEntry = true ↔
        ¬ EndsMissing (Host.startSteps again (StartStep.sequence host.module launch)) others
          before) ↔ host.module.EntryTyped)) ∧
    (∀ bridge, host.bridge? = some bridge →
      ((host.compiled.report.reserveSpace = true ↔ bridge.canReserve = true) ↔
        host.module.ReserveTyped)) := by
  refine ⟨?_, fun prepares => ?_, fun bridge bound => ?_⟩
  · rw [Host.mainEntry_iff valid, Host.endsMissing_callMain_iff, Option.isSome_iff_ne_none]
  · rw [Host.endsMissing_sequence_iff prepares, not_not]
    exact Host.workerEntry_agrees_iff valid
  · exact Host.reserveSpace_agrees_iff bound valid

/-- A host whose guest exports a function to begin with and, with some type each, those for the
entry of a worker and for room. -/
def Host.exporting (entry reserve : Wasm.FunctionType) : Host :=
  .ofModule "exporting" {
    memory := some { type := { minimum := 1 }, exported := some Wasm.Abi.memory }
    functions := [
      { name := "main" },
      { name := Wasm.Abi.workerEntry, type := entry },
      { name := Wasm.Abi.reserveSpace, type := reserve }] } .exported

/-- With the types for them the functions are what the report says they are. -/
theorem report_agrees_exporting :
    (Host.exporting Wasm.Abi.wordType Wasm.Abi.reserveSpaceType).compiled.report.workerEntry =
        true ∧
      ¬ EndsMissing
        (Host.startSteps (Host.exporting Wasm.Abi.wordType Wasm.Abi.reserveSpaceType).entry
          (StartStep.sequence (Host.exporting Wasm.Abi.wordType Wasm.Abi.reserveSpaceType).module
            ⟨7, 64, 128⟩)) Eq (Context.new Host.stepping 1, {}) := by
  have prepares : (Host.exporting Wasm.Abi.wordType Wasm.Abi.reserveSpaceType).Prepares
      (Host.exporting Wasm.Abi.wordType Wasm.Abi.reserveSpaceType).entry Eq
      (Context.new Host.stepping 1, {}) ⟨7, 64, 128⟩ :=
    ⟨(Context.new Host.stepping 1, { log := #[(1, .stackPointerKept 64)] }),
      (endsAmid_of_done rfl).mpr ⟨rfl, rfl⟩⟩
  obtain ⟨-, entry, -⟩ := report_agrees_with_running
    (Host.exporting Wasm.Abi.wordType Wasm.Abi.reserveSpaceType)
    (Host.exporting Wasm.Abi.wordType Wasm.Abi.reserveSpaceType).entry Eq
    (Context.new Host.stepping 1, {}) ⟨7, 64, 128⟩ (by decide)
  have agrees := (entry prepares).mpr fun _ => .inl (by decide)
  exact ⟨by decide, agrees.mp (by decide)⟩

/-- With another type the entry of a worker is promised and lacking. -/
theorem mistyped_entry_is_promised :
    (Host.exporting {} {}).module.invalid? true = none ∧
      (Host.exporting {} {}).compiled.report.workerEntry = true ∧
      (Host.startSteps (Host.exporting {} {}).entry
        (StartStep.sequence (Host.exporting {} {}).module ⟨7, 64, 128⟩)).run.EndsAtOnce
          (Context.new Host.stepping 1, {}) (.error (.missingExport Wasm.Abi.workerEntry))
          (Context.new Host.stepping 1, { log := #[(1, .stackPointerKept 64)] }) ∧
      (Host.exporting {} {}).compiled.report.reserveSpace = true ∧
      (Host.exporting {} {}).bridge? = some ⟨false, false⟩ :=
  ⟨by decide, by decide, rfl, by decide, by decide⟩

end WasmBridge
