import WasmBridge.Proofs.Context.Failure
import WasmBridge.Proofs.Context.Instances

/-!
# What imports are bound to

Under a name the linker has one definition: the delivering function, the planned memory, or a
stub of the type under which the name is imported first.  So stubs stand in for every function
that a module imports as long as it imports each name with one type.
-/

namespace WasmBridge

open Activity

/-! ## Names -/

/-- The type of a function that is imported under a name. -/
def Wasm.Import.functionUnder? (item : Wasm.Import) (origin name : String) :
    Option Wasm.FunctionType :=
  match item.type with
  | .function type => if item.origin = origin ∧ item.name = name then some type else none
  | _ => none

/-- The memory that the host creates, if it creates one. -/
def MemoryPlan.memory? : MemoryPlan → Option PlannedMemory
  | shared planned | separate planned => some planned
  | exported => none

/-- The planned memory under a name; it has `pages` pages now. -/
def MemoryPlan.definition? (plan : MemoryPlan) (pages : Nat) (origin name : String) :
    Option Definition :=
  plan.memory?.bind fun planned =>
    if planned.origin = origin ∧ planned.name = name then
      some (.memory pages planned.maximum plan.isShared)
    else none

theorem MemoryPlan.definition?_planned {plan : MemoryPlan} {planned : PlannedMemory} {pages : Nat}
    (creates : plan.memory? = some planned) :
    plan.definition? pages planned.origin planned.name =
      some (.memory pages planned.maximum plan.isShared) := by
  simp [definition?, creates]

/-- The memory is planned under the name of the delivering function. -/
def MemoryPlan.Clashes (plan : MemoryPlan) : Prop :=
  ∃ planned, plan.memory? = some planned ∧
    planned.origin = Wasm.Abi.bridgeOrigin ∧ planned.name = Wasm.Abi.deliver

namespace Linker

variable {linker : Linker} {module : Wasm.Module} {plan : MemoryPlan} {pages : Nat}
  {origin name : String}

theorem find?_standard (origin name : String) :
    standard.find? origin name =
      if Wasm.Abi.bridgeOrigin = origin ∧ Wasm.Abi.deliver = name then some .deliver else none := by
  unfold standard find?
  rw [List.lookup_cons, List.lookup_nil]
  by_cases same : (origin, name) = (Wasm.Abi.bridgeOrigin, Wasm.Abi.deliver)
  · cases same
    simp
  · rw [beq_false_of_ne same, if_neg fun both => same (by rw [both.1, both.2])]

theorem find?_define {next : Linker} {definition : Definition} {wanted wantedName : String}
    (defined : linker.define origin name definition = .ok next) :
    next.find? wanted wantedName =
      if origin = wanted ∧ name = wantedName then some definition
      else linker.find? wanted wantedName := by
  unfold define at defined
  split at defined
  · cases defined
  · cases defined
    unfold find?
    rw [List.lookup_cons]
    by_cases same : (wanted, wantedName) = (origin, name)
    · cases same
      simp
    · rw [beq_false_of_ne same, if_neg fun both => same (by rw [both.1, both.2])]

theorem define_of_free {definition : Definition} (free : linker.find? origin name = none) :
    linker.define origin name definition =
      .ok ⟨((origin, name), definition) :: linker.definitions⟩ := by
  unfold define
  rw [free]

theorem define_of_taken {old definition : Definition}
    (taken : linker.find? origin name = some old) :
    ∃ cause, linker.define origin name definition = .error (.engine cause) := by
  unfold define
  rw [taken]
  exact ⟨_, rfl⟩

theorem withMemory_eq (linker : Linker) (plan : MemoryPlan) (pages : Nat) :
    linker.withMemory plan pages =
      match plan.memory? with
      | some planned =>
        linker.define planned.origin planned.name (.memory pages planned.maximum plan.isShared)
      | none => .ok linker := by
  cases plan <;> rfl

/-- The planned memory comes before what was there: one name is defined once. -/
theorem find?_withMemory {next : Linker} (linked : linker.withMemory plan pages = .ok next)
    (origin name : String) :
    next.find? origin name =
      (plan.definition? pages origin name).or (linker.find? origin name) := by
  rw [withMemory_eq] at linked
  unfold MemoryPlan.definition?
  cases creates : plan.memory? with
  | none =>
      rw [creates] at linked
      cases linked
      rfl
  | some planned =>
      rw [creates] at linked
      rw [find?_define linked, Option.bind_some]
      split <;> rfl

theorem find?_stub (linker : Linker) (item : Wasm.Import) (origin name : String) :
    (linker.stub item).find? origin name =
      (linker.find? origin name).or ((item.functionUnder? origin name).map .stub) := by
  obtain ⟨itemOrigin, itemName, type⟩ := item
  unfold stub Wasm.Import.functionUnder?
  cases type with
  | function type =>
      cases found : linker.find? itemOrigin itemName with
      | some definition =>
          by_cases same : itemOrigin = origin ∧ itemName = name
          · obtain ⟨rfl, rfl⟩ := same
            simp [found]
          · simp [same]
      | none =>
          rw [find?_define (define_of_free found)]
          by_cases same : itemOrigin = origin ∧ itemName = name
          · obtain ⟨rfl, rfl⟩ := same
            simp [found]
          · simp [same]
  | memory | global | table =>
      cases linker.find? itemOrigin itemName <;> simp

/-- Of the functions that are imported under a name, the first has the stub. -/
theorem find?_foldl_stub (items : List Wasm.Import) (linker : Linker) (origin name : String) :
    (items.foldl stub linker).find? origin name =
      (linker.find? origin name).or
        ((items.findSome? (·.functionUnder? origin name)).map .stub) := by
  induction items generalizing linker with
  | nil => simp
  | cons item rest ih =>
      rw [List.foldl_cons, ih, find?_stub, List.findSome?_cons, Option.or_assoc]
      cases item.functionUnder? origin name <;> simp

/-- What the linker has under each name. -/
theorem find?_forModule {linker : Linker} {stubs : Bool}
    (linked : forModule module plan pages stubs = .ok linker) (origin name : String) :
    linker.find? origin name =
      ((plan.definition? pages origin name).or (standard.find? origin name)).or
        (if stubs then (module.imports.findSome? (·.functionUnder? origin name)).map .stub
          else none) := by
  unfold forModule at linked
  cases provided : standard.withMemory plan pages with
  | error fault =>
      rw [provided] at linked
      cases linked
  | ok first =>
      rw [provided] at linked
      cases linked
      rw [← find?_withMemory provided]
      cases stubs with
      | true => exact find?_foldl_stub _ _ _ _
      | false => exact Option.or_none.symm

/-- Definitions cannot be put together when the memory has the name of the delivering
function. -/
theorem forModule_of_clashes (clashes : plan.Clashes) (module : Wasm.Module) (pages : Nat)
    (stubs : Bool) : ∃ cause, forModule module plan pages stubs = .error (.engine cause) := by
  obtain ⟨planned, creates, origin, name⟩ := clashes
  have taken : standard.find? planned.origin planned.name = some .deliver := by
    rw [find?_standard, if_pos ⟨origin.symm, name.symm⟩]
  obtain ⟨cause, refused⟩ := define_of_taken taken
  unfold forModule
  rw [withMemory_eq, creates]
  dsimp only
  rw [refused]
  exact ⟨cause, rfl⟩

theorem exists_forModule (clear : ¬ plan.Clashes) (module : Wasm.Module) (pages : Nat)
    (stubs : Bool) : ∃ linker, forModule module plan pages stubs = .ok linker := by
  unfold forModule
  rw [withMemory_eq]
  cases creates : plan.memory? with
  | none => exact ⟨_, rfl⟩
  | some planned =>
      have free : standard.find? planned.origin planned.name = none := by
        rw [find?_standard, if_neg]
        rintro ⟨origin, name⟩
        exact clear ⟨planned, creates, origin.symm, name.symm⟩
      dsimp only
      rw [define_of_free free]
      exact ⟨_, rfl⟩

end Linker

/-! ## Imports that agree -/

namespace Wasm.Module

variable {module : Wasm.Module} {item : Import} {type : MemoryType}

/-- The imports of one name declare one type. -/
def ImportsAgree (module : Wasm.Module) : Prop :=
  ∀ first ∈ module.imports, ∀ second ∈ module.imports,
    first.origin = second.origin → first.name = second.name → first.type = second.type

instance (module : Wasm.Module) : Decidable module.ImportsAgree :=
  inferInstanceAs (Decidable (∀ first ∈ module.imports, ∀ second ∈ module.imports,
    first.origin = second.origin → first.name = second.name → first.type = second.type))

/-- Beside functions, a module imports at most one memory, which the plan can satisfy, and it
imports the delivering function with its type. -/
structure Stubbable (module : Wasm.Module) (plan : MemoryPlan) : Prop where
  bridge : ∀ item ∈ module.imports, item.origin = Abi.bridgeOrigin → item.name = Abi.deliver →
    item.type = .function Abi.deliverType
  kinds : ∀ item ∈ module.imports,
    (∃ type, item.type = .function type) ∨ ∃ type, item.type = .memory type
  single : module.importedMemories.length ≤ 1
  satisfied : ∀ item type, (item, type) ∈ module.importedMemories →
    ∃ planned, plan.memory? = some planned ∧
      type.admits planned.minimum planned.maximum plan.isShared

theorem mem_importedMemories_iff :
    (item, type) ∈ module.importedMemories ↔ item ∈ module.imports ∧ item.type = .memory type := by
  unfold importedMemories
  rw [List.mem_filterMap]
  constructor
  · rintro ⟨other, member, found⟩
    split at found
    next same =>
      cases found
      exact ⟨member, same⟩
    next => cases found
  · rintro ⟨member, same⟩
    exact ⟨item, member, by rw [same]⟩

end Wasm.Module

namespace MemoryPlan

variable {config : Configuration} {module : Wasm.Module} {plan : MemoryPlan}

/-- A plan is for the first memory that is imported, if there is one. -/
theorem of_forModule (settled : forModule config module = .ok plan) :
    (module.importedMemories.head? = none ∧ plan.memory? = none) ∨
    ∃ item type, module.importedMemories.head? = some (item, type) ∧
      plan.memory? = some (planned config item type) ∧ plan.isShared = type.shared := by
  unfold forModule at settled
  split at settled
  next without =>
    cases settled
    exact .inl ⟨without, rfl⟩
  next item type first =>
    refine .inr ⟨item, type, first, ?_⟩
    split at settled
    · cases settled
    · split at settled
      next separate =>
        cases settled
        exact ⟨rfl, by simpa [isShared] using separate⟩
      next shared =>
        split at settled
        · cases settled
          exact ⟨rfl, by simpa [isShared] using shared⟩
        · cases settled

theorem exists_import_of_forModule {planned : PlannedMemory}
    (settled : forModule config module = .ok plan) (creates : plan.memory? = some planned) :
    ∃ item type, module.importedMemories.head? = some (item, type) ∧
      plan.isShared = type.shared ∧ planned = MemoryPlan.planned config item type := by
  rcases of_forModule settled with ⟨-, without⟩ | ⟨item, type, first, found, shared⟩
  · rw [without] at creates
    cases creates
  · rw [found] at creates
    cases creates
    exact ⟨item, type, first, shared, rfl⟩

end MemoryPlan

namespace Wasm.Module

variable {module : Wasm.Module} {linker : Linker} {plan : MemoryPlan} {pages : Nat}

theorem binds_iff {item : Import} :
    linker.binds item = true ↔
      ∃ definition, linker.find? item.origin item.name = some definition ∧
        definition.satisfies item.type = true :=
  Option.any_eq_true ..

theorem satisfies_memory_iff {type : ExternType} {pages limit : Nat} {shared : Bool} :
    (Definition.memory pages limit shared).satisfies type = true ↔
      ∃ memoryType, type = .memory memoryType ∧ memoryType.admits pages limit shared = true := by
  cases type <;> simp [Definition.satisfies]

/-- There is one memory at most to be imported. -/
theorem importedMemory_unique (single : module.importedMemories.length ≤ 1)
    {first second : Import × MemoryType} (one : first ∈ module.importedMemories)
    (two : second ∈ module.importedMemories) : first = second := by
  rcases Nat.le_one_iff_eq_zero_or_eq_one.mp single with empty | one_only
  · rw [List.length_eq_zero_iff.mp empty] at one
    cases one
  · obtain ⟨only, same⟩ := List.length_eq_one_iff.mp one_only
    rw [same, List.mem_singleton] at one two
    rw [one, two]

/-- One definition satisfies imports of one type. -/
theorem importsAgree_of_binds (single : module.importedMemories.length ≤ 1)
    (bound : ∀ item ∈ module.imports, linker.binds item = true) : module.ImportsAgree := by
  intro first firstMember second secondMember origin name
  obtain ⟨definition, found, satisfied⟩ := binds_iff.mp (bound first firstMember)
  obtain ⟨other, same, also⟩ := binds_iff.mp (bound second secondMember)
  rw [← origin, ← name, found] at same
  cases same
  cases definition with
  | deliver => rw [eq_of_beq satisfied, eq_of_beq also]
  | stub type => rw [eq_of_beq satisfied, eq_of_beq also]
  | memory pages limit shared =>
      obtain ⟨firstType, asked, -⟩ := satisfies_memory_iff.mp satisfied
      obtain ⟨secondType, alsoAsked, -⟩ := satisfies_memory_iff.mp also
      cases importedMemory_unique single (mem_importedMemories_iff.mpr ⟨firstMember, asked⟩)
        (mem_importedMemories_iff.mpr ⟨secondMember, alsoAsked⟩)
      rfl

theorem functionUnder?_eq_some_iff {item : Import} {origin name : String} {type : FunctionType} :
    item.functionUnder? origin name = some type ↔
      item.type = .function type ∧ item.origin = origin ∧ item.name = name := by
  unfold Import.functionUnder?
  split
  next other asked =>
    rw [asked]
    by_cases same : item.origin = origin ∧ item.name = name
    · simp [same]
    · simp [same]
  next other =>
    simp only [reduceCtorEq, false_iff]
    rintro ⟨asked, -⟩
    exact other _ asked

variable {config : Configuration}

/-- The planned memory is found under a name if a memory is imported under it. -/
theorem exists_import_of_definition? {definition : Definition} {origin name : String}
    (settled : MemoryPlan.forModule config module = .ok plan)
    (defined : plan.definition? pages origin name = some definition) :
    ∃ item type, item ∈ module.imports ∧ item.type = .memory type ∧
      item.origin = origin ∧ item.name = name := by
  unfold MemoryPlan.definition? at defined
  obtain ⟨planned, creates, here⟩ := Option.bind_eq_some_iff.mp defined
  obtain ⟨item, type, first, -, rfl⟩ := MemoryPlan.exists_import_of_forModule settled creates
  obtain ⟨member, asked⟩ := mem_importedMemories_iff.mp (List.mem_of_head? first)
  split at here
  next same => exact ⟨item, type, member, asked, same.1, same.2⟩
  next => cases here

/-- A memory that the plan can satisfy is bound as long as the created one has not shrunk. -/
theorem admits_of_le {type : MemoryType} {fewer limit : Nat} {shared : Bool}
    (admits : type.admits fewer limit shared = true) (grown : fewer ≤ pages) :
    type.admits pages limit shared = true := by
  simp only [MemoryType.admits, Bool.and_eq_true, decide_eq_true_eq] at admits ⊢
  exact ⟨⟨admits.1.1, Nat.le_trans admits.1.2 grown⟩, admits.2⟩

/-- Of imports that agree each is bound. -/
theorem ImportsAgree.binds (agree : module.ImportsAgree) (stubbable : module.Stubbable plan)
    (settled : MemoryPlan.forModule config module = .ok plan)
    (linked : Linker.forModule module plan pages true = .ok linker)
    (grown : ∀ planned, plan.memory? = some planned → planned.minimum ≤ pages)
    {item : Import} (member : item ∈ module.imports) : linker.binds item = true := by
  rw [binds_iff, Linker.find?_forModule linked, if_pos rfl]
  rcases stubbable.kinds item member with ⟨type, asked⟩ | ⟨type, asked⟩
  · cases defined : plan.definition? pages item.origin item.name with
    | some definition =>
        obtain ⟨other, memory, there, alsoAsked, origin, name⟩ :=
          exists_import_of_definition? settled defined
        have same := agree item member other there origin.symm name.symm
        rw [asked, alsoAsked] at same
        cases same
    | none =>
        rw [Option.none_or, Linker.find?_standard]
        split
        next same =>
          have typed := stubbable.bridge item member same.1.symm same.2.symm
          exact ⟨.deliver, rfl, beq_iff_eq.mpr typed⟩
        next =>
          have own : item.functionUnder? item.origin item.name = some type :=
            functionUnder?_eq_some_iff.mpr ⟨asked, rfl, rfl⟩
          obtain ⟨first, found⟩ : ∃ first,
              module.imports.findSome? (·.functionUnder? item.origin item.name) = some first := by
            rw [← Option.isSome_iff_exists, List.findSome?_isSome_iff]
            exact ⟨item, member, by rw [own]; rfl⟩
          obtain ⟨other, there, under⟩ := List.exists_of_findSome?_eq_some found
          obtain ⟨alsoAsked, origin, name⟩ := functionUnder?_eq_some_iff.mp under
          have same := agree item member other there origin.symm name.symm
          rw [found]
          exact ⟨.stub first, rfl, beq_iff_eq.mpr (same.trans alsoAsked)⟩
  · have imported := mem_importedMemories_iff.mpr ⟨member, asked⟩
    obtain ⟨planned, creates, admits⟩ := stubbable.satisfied item type imported
    obtain ⟨other, memory, first, -, rfl⟩ := MemoryPlan.exists_import_of_forModule settled creates
    cases importedMemory_unique stubbable.single imported (List.mem_of_head? first)
    rw [show plan.definition? pages item.origin item.name = _ from
      MemoryPlan.definition?_planned creates]
    exact ⟨_, rfl, satisfies_memory_iff.mpr ⟨type, asked, admits_of_le admits (grown _ creates)⟩⟩

end Wasm.Module


/-! ## Instances with stubs -/

/-- How many pages the planned memory has now. -/
def MemoryPlan.pagesNow (plan : MemoryPlan) (shared : Shared) : Nat :=
  match plan with
  | .shared _ => shared.memory.pages
  | .separate planned => planned.minimum
  | .exported => 0

namespace Host

variable {host : Host} {again : Reentry} {before : Moment}

/-- Set up the memory and the globals of an instance whose imports are bound, and run its
start function. -/
def settle (host : Host) (again : Reentry) : Attempt Unit := do
  (modify fun context =>
    { context with home := host.home, globals := host.module.initialGlobals } : Activity Unit)
  putSegments host.module.segments
  host.runStart again

theorem MemoryInPlace.minimum_le {shared : Shared} (inPlace : host.MemoryInPlace shared)
    {planned : PlannedMemory} (creates : host.plan.memory? = some planned) :
    planned.minimum ≤ host.plan.pagesNow shared := by
  cases plan : host.plan with
  | «shared» all =>
      rw [plan] at creates
      cases creates
      exact (inPlace planned plan).pages
  | separate own =>
      rw [plan] at creates
      cases creates
      exact Nat.le_refl _
  | exported =>
      rw [plan] at creates
      cases creates

theorem linker_atOnce (host : Host) (stubs : Bool) (before : Moment) :
    (host.linker stubs).run.EndsAtOnce before
      (Linker.forModule host.module host.plan (host.plan.pagesNow before.2) stubs) before :=
  rfl

theorem instantiate_of_bound {linker : Linker} {stubs : Bool}
    (linked : (host.linker stubs).run.EndsAtOnce before (.ok linker) before)
    (bound : ∀ item ∈ host.module.imports, linker.binds item = true) :
    (host.instantiate again stubs).run before.1 before.2 =
      (host.settle again).run before.1 before.2 := by
  have got : (get : Activity Context).EndsAtOnce before before.1 before := rfl
  have all : linker.unbound? host.module = none :=
    List.find?_eq_none.mpr fun item member => by simp [bound item member]
  unfold instantiate
  rw [EndsAtOnce.run_bind_eq (.run_lift got), EndsAtOnce.run_bind_eq linked, all]
  rfl

/-- An import that is not bound ends the instantiation before anything is changed. -/
theorem instantiate_of_unbound {linker : Linker} {stubs : Bool}
    (linked : (host.linker stubs).run.EndsAtOnce before (.ok linker) before)
    (unbound : ∃ item ∈ host.module.imports, linker.binds item = false) :
    ∃ item ∈ host.module.imports, linker.binds item = false ∧
      (host.instantiate again stubs).run.EndsAtOnce before
        (.error (.instantiationFailure before.1.id
          s!"unknown or incompatible import {item.qualified}")) before := by
  have got : (get : Activity Context).EndsAtOnce before before.1 before := rfl
  obtain ⟨item, found⟩ : ∃ item, linker.unbound? host.module = some item := by
    obtain ⟨item, member, unbound⟩ := unbound
    rw [← Option.isSome_iff_exists]
    exact List.find?_isSome.mpr ⟨item, member, by simp [unbound]⟩
  refine ⟨item, List.mem_of_find?_eq_some found, by simpa using List.find?_some found, ?_⟩
  refine .run_bind (.run_lift got) (.run_bind linked ?_)
  rw [found]
  exact .of_throw _

/-- Definitions that cannot be put together end the instantiation before anything is
changed. -/
theorem instantiate_of_unlinked {stubs : Bool} {fault : Fault}
    (unlinked : (host.linker stubs).run.EndsAtOnce before (.error fault) before) :
    (host.instantiate again stubs).run.EndsAtOnce before (.error fault) before := by
  have got : (get : Activity Context).EndsAtOnce before before.1 before := rfl
  exact .run_bind (.run_lift got) (.run_bind_error unlinked)

/-- A memory that a module may import has another name than the delivering function. -/
theorem not_clashes_of_stubbable
    (settled : MemoryPlan.forModule host.config host.module = .ok host.plan)
    (stubbable : host.module.Stubbable host.plan) : ¬ host.plan.Clashes := by
  rintro ⟨planned, creates, origin, name⟩
  obtain ⟨item, type, first, -, rfl⟩ := MemoryPlan.exists_import_of_forModule settled creates
  obtain ⟨member, asked⟩ := Wasm.Module.mem_importedMemories_iff.mp (List.mem_of_head? first)
  rw [stubbable.bridge item member origin name] at asked
  cases asked

/--
With stubs every import gets a definition of the type it declares exactly when the imports of
each name declare one type.  Then a context, main or worker, goes on with its memory and its
start function; otherwise it ends as one that cannot be instantiated, before anything is
changed.
-/
theorem stubs_bind_iff_importsAgree (host : Host) (again : Reentry) (before : Moment)
    (settled : MemoryPlan.forModule host.config host.module = .ok host.plan)
    (stubbable : host.module.Stubbable host.plan) (inPlace : host.MemoryInPlace before.2) :
    ∃ linker, (host.linker true).run.EndsAtOnce before (.ok linker) before ∧
      ((∀ item ∈ host.module.imports, linker.binds item = true) ↔ host.module.ImportsAgree) ∧
      (host.module.ImportsAgree →
        (host.instantiate again true).run before.1 before.2 =
          (host.settle again).run before.1 before.2) ∧
      (¬ host.module.ImportsAgree →
        ∃ item ∈ host.module.imports, linker.binds item = false ∧
          (host.instantiate again true).run.EndsAtOnce before
            (.error (.instantiationFailure before.1.id
              s!"unknown or incompatible import {item.qualified}")) before) := by
  obtain ⟨linker, linked⟩ := Linker.exists_forModule
    (not_clashes_of_stubbable settled stubbable) host.module (host.plan.pagesNow before.2) true
  have ends : (host.linker true).run.EndsAtOnce before (.ok linker) before := by
    rw [← linked]
    exact linker_atOnce host true before
  have binds : (∀ item ∈ host.module.imports, linker.binds item = true) ↔
      host.module.ImportsAgree :=
    ⟨Wasm.Module.importsAgree_of_binds stubbable.single, fun agree _ =>
      agree.binds stubbable settled linked fun _ => inPlace.minimum_le⟩
  refine ⟨linker, ends, binds, fun agree => ?_, fun disagree => ?_⟩
  · exact instantiate_of_bound ends (binds.mpr agree)
  · rw [← binds] at disagree
    obtain ⟨item, missed⟩ := Classical.not_forall.mp disagree
    obtain ⟨member, unbound⟩ := Classical.not_imp.mp missed
    exact instantiate_of_unbound ends ⟨item, member, by simpa using unbound⟩

/-- A host of a module that imports a function with each of some types, beside a memory and the
delivering function. -/
def importing (types : List Wasm.FunctionType) : Host :=
  { Host.ofModule "importing" {
      imports := ⟨"env", "memory", .memory { minimum := 1, maximum := some 3 }⟩ ::
        ⟨Wasm.Abi.bridgeOrigin, Wasm.Abi.deliver, .function Wasm.Abi.deliverType⟩ ::
        types.map fun type => ⟨"env", "log", .function type⟩ }
      (.separate ⟨"env", "memory", 2, 3⟩) with config := { initialPages := 2 } }

theorem importing_importedMemories (types : List Wasm.FunctionType) :
    (importing types).module.importedMemories =
      [(⟨"env", "memory", .memory { minimum := 1, maximum := some 3 }⟩,
        { minimum := 1, maximum := some 3 })] := by
  change _ :: List.filterMap _ (types.map _) = _
  rw [List.filterMap_map]
  exact congrArg (_ :: ·) (List.filterMap_eq_nil_iff.mpr fun _ _ => rfl)

theorem importing_settled (types : List Wasm.FunctionType) :
    MemoryPlan.forModule (importing types).config (importing types).module =
      .ok (importing types).plan := by
  unfold MemoryPlan.forModule
  rw [importing_importedMemories]
  rfl

theorem mem_importing_iff {types : List Wasm.FunctionType} {item : Wasm.Import} :
    item ∈ (importing types).module.imports ↔
      item = ⟨"env", "memory", .memory { minimum := 1, maximum := some 3 }⟩ ∨
      item = ⟨Wasm.Abi.bridgeOrigin, Wasm.Abi.deliver, .function Wasm.Abi.deliverType⟩ ∨
      ∃ type ∈ types, ⟨"env", "log", .function type⟩ = item := by
  change item ∈ _ :: _ :: types.map _ ↔ _
  rw [List.mem_cons, List.mem_cons, List.mem_map]

theorem importing_stubbable (types : List Wasm.FunctionType) :
    (importing types).module.Stubbable (importing types).plan where
  bridge := by
    intro item member origin name
    rcases mem_importing_iff.mp member with rfl | rfl | ⟨type, -, rfl⟩
    · exact absurd name (show "memory" ≠ Wasm.Abi.deliver by decide)
    · rfl
    · exact absurd name (show "log" ≠ Wasm.Abi.deliver by decide)
  kinds := by
    intro item member
    rcases mem_importing_iff.mp member with rfl | rfl | ⟨type, -, rfl⟩
    · exact .inr ⟨_, rfl⟩
    · exact .inl ⟨_, rfl⟩
    · exact .inl ⟨type, rfl⟩
  single := by
    rw [importing_importedMemories]
    exact Nat.le_refl 1
  satisfied := by
    intro item type member
    rw [importing_importedMemories, List.mem_singleton] at member
    cases member
    exact ⟨_, rfl, rfl⟩

/-- Functions of one type have a stub, however often they are imported. -/
theorem stubs_bind_importing_twice :
    (importing [⟨[.i32], []⟩, ⟨[.i32], []⟩]).module.ImportsAgree ∧
      ∃ linker, linker.binds ⟨"env", "log", .function ⟨[.i32], []⟩⟩ = true ∧
        ((importing [⟨[.i32], []⟩, ⟨[.i32], []⟩]).linker true).run.EndsAtOnce
          (Context.new bare 1, {}) (.ok linker) (Context.new bare 1, {}) := by
  have agree : (importing [⟨[.i32], []⟩, ⟨[.i32], []⟩]).module.ImportsAgree := by decide
  obtain ⟨linker, ends, binds, -, -⟩ := stubs_bind_iff_importsAgree
    (importing [⟨[.i32], []⟩, ⟨[.i32], []⟩]) trapping (Context.new bare 1, {})
    (importing_settled _) (importing_stubbable _) (fun _ plan => by cases plan)
  exact ⟨agree, linker, binds.mpr agree _ (.tail _ (.tail _ (.head _))), ends⟩

/-- A function that is imported with two types has a stub of the first one only, and its
module cannot be instantiated. -/
theorem second_type_has_no_stub :
    (importing [⟨[], []⟩, ⟨[.i32], []⟩]).module.Stubbable
        (importing [⟨[], []⟩, ⟨[.i32], []⟩]).plan ∧
      ∃ linker, linker.binds ⟨"env", "log", .function ⟨[.i32], []⟩⟩ = false ∧
        ((importing [⟨[], []⟩, ⟨[.i32], []⟩]).linker true).run.EndsAtOnce
          (Context.new bare mainContext, {}) (.ok linker) (Context.new bare mainContext, {}) ∧
        ((importing [⟨[], []⟩, ⟨[.i32], []⟩]).instantiate trapping true).run.EndsAtOnce
          (Context.new bare mainContext, {})
          (.error (.instantiationFailure mainContext
            "unknown or incompatible import env.log"))
          (Context.new bare mainContext, {}) :=
  ⟨importing_stubbable _, _, by decide, rfl, rfl⟩

end Host

end WasmBridge
