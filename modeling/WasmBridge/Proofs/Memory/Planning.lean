import WasmBridge.Proofs.Context.Linking

/-!
# What memory is planned

The sizes of a planned memory come from the import and from the configuration.  They always
make a memory, and it is what the import asks for unless the import sets no limit and wants
more than is configured; then nothing is instantiated.
-/

namespace WasmBridge

open Activity

/-! ## Sizes -/

/-- A 32-bit memory can have the sizes of the type. -/
structure Wasm.MemoryType.Sized (type : Wasm.MemoryType) : Prop where
  narrow : type.wide = false
  minimum : type.minimum ≤ Wasm.greatestPages
  maximum : ∀ limit, type.maximum = some limit →
    type.minimum ≤ limit ∧ limit ≤ Wasm.greatestPages

/-- The initial size is within the greatest, and that is within what can be addressed. -/
theorem Configuration.sizes_of_validate {config : Configuration}
    (valid : config.validate = .ok ()) :
    config.initialPages.toNat ≤ config.maximumPages.toNat ∧
      config.maximumPages.toNat ≤ Wasm.greatestPages := by
  unfold validate checkInitialPages checkMaximumPages at valid
  split at valid
  · cases valid
  next initial =>
    split at valid
    · cases valid
    next maximum => exact ⟨UInt32.not_lt.mp initial, UInt32.not_lt.mp maximum⟩

namespace MemoryPlan

variable {config : Configuration} {type : Wasm.MemoryType}

theorem minimum_eq (sized : type.Sized) :
    minimum config type =
      if max type.minimum config.initialPages.toNat ≤ maximum config type then
        max type.minimum config.initialPages.toNat
      else maximum config type := by
  have small : type.minimum < UInt32.size := Nat.lt_of_le_of_lt sized.minimum (by decide)
  unfold minimum
  rw [Nat.mod_eq_of_lt small, Nat.min_def]

/-- As much is planned as the import wants, if the greatest size allows it. -/
theorem le_minimum_iff (sized : type.Sized) :
    type.minimum ≤ minimum config type ↔ type.minimum ≤ maximum config type := by
  have small : type.minimum < UInt32.size := Nat.lt_of_le_of_lt sized.minimum (by decide)
  unfold minimum
  rw [Nat.mod_eq_of_lt small, Nat.le_min]
  exact and_iff_right (Nat.le_max_left _ _)

section Valid

variable (valid : config.validate = .ok ()) (sized : type.Sized)
include valid sized

/-- The declared limit, or the configured one where none is declared, can be addressed. -/
theorem getD_maximum_le : type.maximum.getD config.maximumPages.toNat ≤ Wasm.greatestPages := by
  cases declared : type.maximum with
  | none => exact (Configuration.sizes_of_validate valid).2
  | some limit => exact (sized.maximum limit declared).2

theorem maximum_eq : maximum config type = type.maximum.getD config.maximumPages.toNat := by
  have word : Wasm.greatestPages ≤ UInt32.size - 1 := by decide
  exact Nat.min_eq_left (Nat.le_trans (getD_maximum_le valid sized) word)

theorem maximum_le : maximum config type ≤ Wasm.greatestPages := by
  rw [maximum_eq valid sized]
  exact getD_maximum_le valid sized

/-- The planned memory is what the import asks for unless the import declares no limit and
wants more than is configured. -/
theorem admits_iff :
    type.admits (minimum config type) (maximum config type) type.shared = true ↔
      type.maximum.isSome ∨ type.minimum ≤ config.maximumPages.toNat := by
  unfold Wasm.MemoryType.admits
  simp only [sized.narrow, Bool.not_false, Bool.true_and, beq_self_eq_true, Bool.and_eq_true,
    decide_eq_true_eq]
  rw [le_minimum_iff sized, maximum_eq valid sized]
  cases declared : type.maximum with
  | none => simp
  | some limit => simp [(sized.maximum limit declared).1]

end Valid

variable {module : Wasm.Module} {item : Wasm.Import}

/-- What is planned for the first memory that is imported. -/
theorem forModule_eq (first : module.importedMemories.head? = some (item, type))
    (narrow : type.wide = false) :
    forModule config module =
      if type.shared then
        if config.threads then .ok (.shared (planned config item type))
        else .error (.threadsUnavailable "module imports shared memory but threads are disabled")
      else .ok (.separate (planned config item type)) := by
  unfold forModule
  rw [first]
  dsimp only
  rw [if_neg (by simp [narrow])]
  cases type.shared <;> rfl

theorem memory?_of_forModule {plan : MemoryPlan}
    (first : module.importedMemories.head? = some (item, type))
    (settled : forModule config module = .ok plan) :
    plan.memory? = some (planned config item type) ∧ plan.isShared = type.shared := by
  rcases of_forModule settled with ⟨without, -⟩ | ⟨other, asked, there, creates, shared⟩
  · rw [first] at without
    cases without
  · rw [first] at there
    cases there
    exact ⟨creates, shared⟩

end MemoryPlan

/-! ## Memories that want more than is configured -/

namespace Host

variable {host : Host} {item : Wasm.Import} {type : Wasm.MemoryType} {shared : Shared}

/-- The planned memory has not grown beyond its greatest size. -/
theorem MemoryInPlace.pagesNow_le (inPlace : host.MemoryInPlace shared)
    (first : host.module.importedMemories.head? = some (item, type))
    (settled : MemoryPlan.forModule host.config host.module = .ok host.plan) :
    host.plan.pagesNow shared ≤ MemoryPlan.maximum host.config type := by
  obtain ⟨creates, -⟩ := MemoryPlan.memory?_of_forModule first settled
  have bounded := MemoryPlan.minimum_le_maximum host.config type
  cases plan : host.plan with
  | «shared» planned =>
      rw [plan] at creates
      cases creates
      have grows := inPlace _ plan
      have limited := grows.within bounded
      rw [grows.limit] at limited
      exact limited
  | separate planned =>
      rw [plan] at creates
      cases creates
      exact bounded
  | exported =>
      rw [plan] at creates
      cases creates

/-- The definitions are refused if the memory has the name of the delivering function; else
the memory that is planned is found under its name. -/
theorem linker_of_planned (stubs : Bool) (before : Moment)
    (first : host.module.importedMemories.head? = some (item, type))
    (settled : MemoryPlan.forModule host.config host.module = .ok host.plan) :
    if item.origin = Wasm.Abi.bridgeOrigin ∧ item.name = Wasm.Abi.deliver then
      ∃ cause, (host.linker stubs).run.EndsAtOnce before (.error (.engine cause)) before
    else ∃ linker, (host.linker stubs).run.EndsAtOnce before (.ok linker) before ∧
      linker.find? item.origin item.name =
        some (.memory (host.plan.pagesNow before.2) (MemoryPlan.maximum host.config type)
          type.shared) := by
  obtain ⟨creates, isShared⟩ := MemoryPlan.memory?_of_forModule first settled
  have answers := linker_atOnce host stubs before
  split
  next same =>
    obtain ⟨cause, refused⟩ := Linker.forModule_of_clashes ⟨_, creates, same⟩ host.module
      (host.plan.pagesNow before.2) stubs
    rw [refused] at answers
    exact ⟨cause, answers⟩
  next other =>
    have clear : ¬ host.plan.Clashes := by
      rintro ⟨planned, found, same⟩
      rw [creates] at found
      cases found
      exact other same
    obtain ⟨linker, linked⟩ := Linker.exists_forModule clear host.module
      (host.plan.pagesNow before.2) stubs
    rw [linked] at answers
    refine ⟨linker, answers, ?_⟩
    rw [Linker.find?_forModule linked, show host.plan.definition? _ item.origin item.name = _ from
      MemoryPlan.definition?_planned creates, isShared]
    rfl

/-- A memory that wants more than its plan allows is not bound. -/
theorem instantiate_of_wanting {again : Reentry} {stubs : Bool} {before : Moment}
    (first : host.module.importedMemories.head? = some (item, type))
    (settled : MemoryPlan.forModule host.config host.module = .ok host.plan)
    (inPlace : host.MemoryInPlace before.2)
    (wants : MemoryPlan.maximum host.config type < type.minimum) :
    ∃ cause, (host.instantiate again stubs).run.EndsAtOnce before
      (.error (if item.origin = Wasm.Abi.bridgeOrigin ∧ item.name = Wasm.Abi.deliver then
        .engine cause else .instantiationFailure before.1.id cause)) before := by
  have linked := linker_of_planned stubs before first settled
  split
  next same =>
    rw [if_pos same] at linked
    obtain ⟨cause, refused⟩ := linked
    exact ⟨cause, instantiate_of_unlinked refused⟩
  next other =>
    rw [if_neg other] at linked
    obtain ⟨linker, answers, found⟩ := linked
    obtain ⟨member, asked⟩ := Wasm.Module.mem_importedMemories_iff.mp (List.mem_of_head? first)
    have small := Nat.lt_of_le_of_lt (inPlace.pagesNow_le first settled) wants
    have unbound : linker.binds item = false := by
      simp [Linker.binds, found, asked, Definition.satisfies, Wasm.MemoryType.admits,
        Nat.not_le_of_lt small]
    obtain ⟨culprit, -, -, ends⟩ := instantiate_of_unbound answers ⟨item, member, unbound⟩
    exact ⟨_, ends⟩

end Host

/--
The memory planned for an import has sizes that make a memory.  Its greatest size is the
declared limit or, where there is none, the configured one; it starts with the declared or the
configured size, whichever is larger, if that is within the greatest.  So it is what the import
asks for unless no limit is declared and more is wanted than is configured.  Then nothing is
instantiated, and nothing is changed: the memory is refused as an import, or as a definition if
it has the name of the delivering function.
-/
theorem planned_memory_satisfies (host : Host) (item : Wasm.Import) (type : Wasm.MemoryType)
    (valid : host.config.validate = .ok ())
    (first : host.module.importedMemories.head? = some (item, type)) (sized : type.Sized) :
    let least := MemoryPlan.minimum host.config type
    let greatest := MemoryPlan.maximum host.config type
    let wanted := max type.minimum host.config.initialPages.toNat
    (MemoryPlan.forModule host.config host.module =
      if type.shared then
        if host.config.threads then .ok (.shared ⟨item.origin, item.name, least, greatest⟩)
        else .error (.threadsUnavailable "module imports shared memory but threads are disabled")
      else .ok (.separate ⟨item.origin, item.name, least, greatest⟩)) ∧
    least ≤ greatest ∧ greatest ≤ 65536 ∧
    greatest = type.maximum.getD host.config.maximumPages.toNat ∧
    least = (if wanted ≤ greatest then wanted else greatest) ∧
    (type.admits least greatest type.shared = true ↔
      type.maximum.isSome ∨ type.minimum ≤ host.config.maximumPages.toNat) ∧
    (MemoryPlan.forModule host.config host.module = .ok host.plan → type.maximum = none →
      host.config.maximumPages.toNat < type.minimum →
      ∀ (again : Reentry) (stubs : Bool) (before : Moment), host.MemoryInPlace before.2 →
        ∃ cause, (host.instantiate again stubs).run.EndsAtOnce before
          (.error (if item.origin = Wasm.Abi.bridgeOrigin ∧ item.name = Wasm.Abi.deliver then
            .engine cause else .instantiationFailure before.1.id cause)) before) := by
  refine ⟨MemoryPlan.forModule_eq first sized.narrow, MemoryPlan.minimum_le_maximum _ _,
    MemoryPlan.maximum_le valid sized, MemoryPlan.maximum_eq valid sized,
    MemoryPlan.minimum_eq sized, MemoryPlan.admits_iff valid sized, ?_⟩
  intro settled undeclared more again stubs before inPlace
  refine Host.instantiate_of_wanting first settled inPlace ?_
  rw [MemoryPlan.maximum_eq valid sized, undeclared]
  exact more

/-- A host of a module that imports a memory of two pages under a name, one page being
configured. -/
def Host.wanting (name : String) : Host :=
  { Host.ofModule "wanting" { imports := [⟨"env", name, .memory { minimum := 2 }⟩] }
      (.separate ⟨"env", name, 1, 1⟩) with config := { initialPages := 1, maximumPages := 1 } }

/-- A page too few is planned, and the guest does not get to run with it. -/
theorem planned_memory_wanting :
    MemoryPlan.minimum (Host.wanting "memory").config { minimum := 2 } = 1 ∧
      ∃ cause, ((Host.wanting "memory").instantiate (Host.wanting "memory").entry false).run
        |>.EndsAtOnce (Context.new (Host.wanting "memory") mainContext, {})
          (.error (.instantiationFailure mainContext cause))
          (Context.new (Host.wanting "memory") mainContext, {}) := by
  have spec := planned_memory_satisfies (Host.wanting "memory")
    ⟨"env", "memory", .memory { minimum := 2 }⟩ { minimum := 2 } rfl rfl
    ⟨rfl, by decide, nofun⟩
  obtain ⟨-, -, -, -, least, -, refused⟩ := spec
  refine ⟨least, ?_⟩
  obtain ⟨cause, ends⟩ := refused rfl rfl (by decide) (Host.wanting "memory").entry false
    (Context.new (Host.wanting "memory") mainContext, {}) nofun
  exact ⟨cause, ends⟩

/-- Under the name of the delivering function the memory is refused as a second definition. -/
theorem memory_named_deliver_is_engine_fault :
    (Host.wanting Wasm.Abi.deliver).config.validate = .ok () ∧
      MemoryPlan.forModule (Host.wanting Wasm.Abi.deliver).config
        (Host.wanting Wasm.Abi.deliver).module = .ok (Host.wanting Wasm.Abi.deliver).plan ∧
      (Host.wanting Wasm.Abi.deliver).config.maximumPages.toNat < 2 ∧
      ((Host.wanting Wasm.Abi.deliver).instantiate (Host.wanting Wasm.Abi.deliver).entry
        true).run.EndsAtOnce (Context.new (Host.wanting Wasm.Abi.deliver) mainContext, {})
          (.error (.engine
            "failed to define env.kwasm_message_to_host: import of that name defined twice"))
          (Context.new (Host.wanting Wasm.Abi.deliver) mainContext, {}) :=
  ⟨rfl, rfl, by decide, rfl⟩

end WasmBridge
