import Mathlib.Algebra.Group.Nat.Defs
import WasmBridge.Config.Environment
import WasmBridge.Proofs.Decimal.Numerals
import WasmBridge.Proofs.Lists
import WasmBridge.Proofs.Text.Typing

/-!
# What the environment asks for

The four variables are read in order, each by its own grammar, and then the configuration they
make is checked rule by rule.  What comes out is the default configuration with the values of the
variables that are set, or a fault that names the first variable or rule that failed.
-/

namespace WasmBridge

variable {α β : Type} {environment : Environment} {name text field : String} {fault : Fault}

/-- A variable is set to a text.  One that is set to anything else says nothing. -/
def Environment.Says (environment : Environment) (name text : String) : Prop :=
  environment.entries.lookup name = some (Text.Utf8.encode text)

theorem Environment.text?_eq_some_iff :
    environment.text? name = some text ↔ environment.Says name text := by
  unfold text? Says
  cases environment.entries.lookup name with
  | none => exact ⟨nofun, nofun⟩
  | some bytes =>
      rw [Option.bind_some, Text.Utf8.decode?, Option.some.injEq, ← Text.Utf8.decode_eq_ok_iff]
      cases Text.Utf8.decode bytes with
      | ok text => simp [Except.toOption]
      | error fault => exact ⟨nofun, nofun⟩

namespace Configuration

/-! ## The first rule that fails -/

section Rules

/-- The first of some rules that fails, by the field it is about. -/
inductive FirstFailing : List (String × Prop) → String → Prop where
  | here {field : String} {holds : Prop} {rules : List (String × Prop)} (fails : ¬ holds) :
      FirstFailing ((field, holds) :: rules) field
  | later {field blamed : String} {holds : Prop} {rules : List (String × Prop)} (passes : holds)
      (rest : FirstFailing rules blamed) : FirstFailing ((field, holds) :: rules) blamed

variable {holds : Prop} {rules : List (String × Prop)} {result : Except Fault α}

theorem FirstFailing.unique {other : String} (first : FirstFailing rules field)
    (second : FirstFailing rules other) : field = other := by
  induction first with
  | here fails =>
      cases second with
      | here => rfl
      | later passes => exact absurd passes fails
  | later passes _ ih =>
      cases second with
      | here fails => exact absurd passes fails
      | later _ rest => exact ih rest

theorem FirstFailing.not_all (failing : FirstFailing rules field) : ¬ ∀ rule ∈ rules, rule.2 := by
  intro all
  induction failing with
  | here fails => exact fails (all _ List.mem_cons_self)
  | later _ _ ih => exact ih fun rule member => all rule (List.mem_cons_of_mem _ member)

/-- A result that goes by some rules: there is one if they all hold, and else a fault about the
field of the first that fails. -/
inductive GoesBy : Except Fault α → List (String × Prop) → Prop where
  | ok {value : α} {rules : List (String × Prop)} (all : ∀ rule ∈ rules, rule.2) :
      GoesBy (.ok value) rules
  | error {field cause : String} {rules : List (String × Prop)}
      (first : FirstFailing rules field) : GoesBy (.error (.configuration field cause)) rules

namespace GoesBy

/-- What follows is checked only if the first rule holds. -/
theorem bind {next : α → Except Fault β} (first : GoesBy result [(field, holds)])
    (rest : ∀ value, result = .ok value → GoesBy (next value) rules) :
    GoesBy (result >>= next) ((field, holds) :: rules) := by
  cases first with
  | ok all =>
      have passes : holds := all _ List.mem_cons_self
      have others := rest _ rfl
      show GoesBy (next _) _
      generalize next _ = outcome at others ⊢
      cases others with
      | ok others => exact .ok (List.forall_mem_cons.mpr ⟨passes, others⟩)
      | error failing => exact .error (.later passes failing)
  | error failing =>
      cases failing with
      | here fails => exact .error (.here fails)
      | later _ none => cases none

theorem map (goes : GoesBy result rules) (f : α → β) : GoesBy (f <$> result) rules := by
  cases goes with
  | ok all => exact .ok all
  | error first => exact .error first

/-- One check. -/
theorem refusing {value : α} {cause : String} {fails : Prop} [Decidable fails]
    (exact : holds ↔ ¬ fails) :
    GoesBy (if fails then .error (.configuration field cause) else .ok value)
      [(field, holds)] := by
  split
  next failed => exact .error (.here fun passes => exact.mp passes failed)
  next passes => exact .ok (List.forall_mem_singleton.mpr (exact.mpr passes))

theorem exists_ok_iff (goes : GoesBy result rules) :
    (∃ value, result = .ok value) ↔ ∀ rule ∈ rules, rule.2 := by
  cases goes with
  | ok all => exact ⟨fun _ => all, fun _ => ⟨_, rfl⟩⟩
  | error first => exact ⟨nofun, fun all => absurd all first.not_all⟩

theorem exists_error_iff (goes : GoesBy result rules) :
    (∃ cause, result = .error (.configuration field cause)) ↔ FirstFailing rules field := by
  cases goes with
  | ok all => exact ⟨nofun, fun failing => absurd all failing.not_all⟩
  | error first =>
      constructor
      · rintro ⟨_, same⟩
        cases same
        exact first
      · intro other
        obtain rfl := first.unique other
        exact ⟨_, rfl⟩

theorem exists_configuration (goes : GoesBy result rules) (fails : result = .error fault) :
    ∃ field cause, fault = .configuration field cause := by
  cases goes with
  | ok => cases fails
  | error =>
      cases fails
      exact ⟨_, _, rfl⟩

end GoesBy

end Rules

/-! ## Validity -/

/-- What a configuration must satisfy, rule by rule. -/
def rules (config : Configuration) : List (String × Prop) := [
  ("initial_memory_pages", config.initialPages.toNat ≤ config.maximumPages.toNat),
  ("max_memory_pages", config.maximumPages.toNat ≤ 65536),
  ("max_workers", config.workers ≠ some 0),
  ("tls_align", ∀ align, config.tlsAlign = some align → ∃ exponent, align.toNat = 2 ^ exponent)]

theorem isPowerOfTwo_iff {word : UInt32} :
    isPowerOfTwo word = true ↔ ∃ exponent, word.toNat = 2 ^ exponent := by
  unfold isPowerOfTwo
  by_cases zero : word = 0
  · subst zero
    exact ⟨nofun, fun ⟨exponent, same⟩ => absurd same (Nat.two_pow_pos exponent).ne⟩
  · have some : word.toNat ≠ 0 := fun same => zero (UInt32.toNat_inj.mp same)
    have pred : (word - 1).toNat = word.toNat - 1 :=
      UInt32.toNat_sub_of_le _ _ (Nat.one_le_iff_ne_zero.mpr some)
    rw [← Nat.isPowerOfTwo, ← Nat.and_sub_one_eq_zero_iff_isPowerOfTwo some, ← pred,
      ← UInt32.toNat_and]
    simp [zero, ← UInt32.toNat_inj]

theorem goesBy_checkTlsAlign (config : Configuration) :
    GoesBy config.checkTlsAlign [("tls_align",
      ∀ align, config.tlsAlign = some align → ∃ exponent, align.toNat = 2 ^ exponent)] := by
  unfold checkTlsAlign
  split
  next align told =>
    rw [← ite_not]
    refine .refusing ⟨fun power => ?_, fun power other same => ?_⟩
    · rw [not_not, isPowerOfTwo_iff]
      exact power align told
    · rw [told] at same
      cases same
      rw [not_not, isPowerOfTwo_iff] at power
      exact power
  next untold => exact .ok (List.forall_mem_singleton.mpr fun align told => by
      rw [untold] at told
      cases told)

/-- A configuration is valid if it satisfies every rule, and else refused for the first it does
not satisfy. -/
theorem goesBy_validate (config : Configuration) : GoesBy config.validate config.rules := by
  refine .bind (.refusing UInt32.not_lt.symm) fun _ _ => ?_
  refine .bind (.refusing (@UInt32.not_lt pageLimit config.maximumPages).symm) fun _ _ => ?_
  refine .bind (.refusing Iff.rfl) fun _ _ => ?_
  exact config.goesBy_checkTlsAlign

/-! ## Variables -/

/-- A text says yes or no, in any letter case. -/
def Answers (text : String) (answer : Bool) : Prop :=
  text.toLower ∈ if answer then ["1", "true", "yes", "on"] else ["0", "false", "no", "off"]

/-- What a variable is set to, as it is denoted by the texts of a grammar.  White space around
the text does not count, and a variable that says no text is as good as unset. -/
def Gives (environment : Environment) (Denotes : String → α → Prop) (name : String) :
    Option α → Prop
  | none => ∀ text, ¬ environment.Says name text
  | some value => ∃ text core, environment.Says name text ∧ Text.Trimmed text core ∧
      Denotes core value

/-- A variable is unset or set to a text of its grammar. -/
def WellFormed (environment : Environment) (Denotes : String → α → Prop) (name : String) : Prop :=
  ∃ value?, Gives environment Denotes name value?

/-- What the variables are set to. -/
structure Settings where
  threads : Option Bool
  workers : Option UInt32
  initialPages : Option UInt32
  maximumPages : Option UInt32

/-- These are the settings of the environment. -/
structure Settings.Of (environment : Environment) (settings : Settings) : Prop where
  threads : Gives environment Answers "KWASM_THREADS" settings.threads
  workers : Gives environment Decimal.Writes "KWASM_MAX_WORKERS" settings.workers
  initialPages : Gives environment Decimal.Writes "KWASM_MEMORY_PAGES" settings.initialPages
  maximumPages : Gives environment Decimal.Writes "KWASM_MAX_MEMORY_PAGES" settings.maximumPages

/-- The default configuration with the settings in place of what they set. -/
def Settings.configuration (settings : Settings) : Configuration :=
  let standard : Configuration := {}
  { standard with
    threads := settings.threads.getD standard.threads
    workers := settings.workers.or standard.workers
    initialPages := settings.initialPages.getD standard.initialPages
    maximumPages := settings.maximumPages.getD standard.maximumPages }

/-- The variables are well-formed, in the order in which they are read. -/
def demands (environment : Environment) : List (String × Prop) := [
  ("KWASM_THREADS", WellFormed environment Answers "KWASM_THREADS"),
  ("KWASM_MAX_WORKERS", WellFormed environment Decimal.Writes "KWASM_MAX_WORKERS"),
  ("KWASM_MEMORY_PAGES", WellFormed environment Decimal.Writes "KWASM_MEMORY_PAGES"),
  ("KWASM_MAX_MEMORY_PAGES", WellFormed environment Decimal.Writes "KWASM_MAX_MEMORY_PAGES")]

/-- No text says both yes and no. -/
theorem Answers.unique {answer other : Bool} (said : Answers text answer)
    (also : Answers text other) : answer = other := by
  have apart : ∀ word ∈ ["1", "true", "yes", "on"], word ∉ ["0", "false", "no", "off"] := by
    decide
  cases answer <;> cases other
  · rfl
  · exact absurd said (apart _ also)
  · exact absurd also (apart _ said)
  · rfl

theorem readToggle_eq_ok_iff {answer : Bool} :
    readToggle text = .ok answer ↔ Answers text answer := by
  have yes : Text.lowercase text ∈ ["1", "true", "yes", "on"] ↔ Answers text true :=
    Text.lowercase_mem_iff (by decide)
  have no : Text.lowercase text ∈ ["0", "false", "no", "off"] ↔ Answers text false :=
    Text.lowercase_mem_iff (by decide)
  unfold readToggle
  dsimp only
  split
  next affirmed =>
    rw [Except.ok.injEq]
    exact ⟨fun same => same ▸ yes.mp affirmed, (yes.mp affirmed).unique⟩
  next unaffirmed =>
    split
    next denied =>
      rw [Except.ok.injEq]
      exact ⟨fun same => same ▸ no.mp denied, (no.mp denied).unique⟩
    next undenied =>
      refine ⟨nofun, fun said => ?_⟩
      cases answer with
      | true => exact absurd (yes.mpr said) unaffirmed
      | false => exact absurd (no.mpr said) undenied

theorem readWord_eq_ok_iff {word : UInt32} :
    readWord text = .ok word ↔ Decimal.Writes text word := by
  rw [readWord, ← Decimal.readUInt32_eq_ok_iff]
  cases Decimal.readUInt32 text with
  | ok found => simp [Except.mapError]
  | error invalid => exact ⟨nofun, nofun⟩

section Setting

variable {read : String → Except String α} {Denotes : String → α → Prop} {value? : Option α}
  (exact : ∀ core value, read core = .ok value ↔ Denotes core value)
include exact

/-- A variable is read as what it is set to, and is refused if it is set to nothing of its
grammar. -/
theorem setting?_cases (environment : Environment) (name : String) :
    (∃ value?, setting? environment read name = .ok value? ∧
      ∀ other, Gives environment Denotes name other ↔ value? = other) ∨
    ∃ cause, setting? environment read name = .error (.configuration name cause) ∧
      ¬ WellFormed environment Denotes name := by
  unfold setting?
  cases said : environment.text? name with
  | none =>
      have silent (text : String) : ¬ environment.Says name text := fun told => by
        rw [Environment.text?_eq_some_iff.mpr told] at said
        cases said
      refine .inl ⟨none, rfl, fun other => ?_⟩
      cases other with
      | none => exact ⟨fun _ => rfl, fun _ => silent⟩
      | some value => exact ⟨fun ⟨text, _, told, _⟩ => absurd told (silent text), nofun⟩
  | some text =>
      have told : environment.Says name text := Environment.text?_eq_some_iff.mp said
      have gives_some (value : α) :
          Gives environment Denotes name (some value) ↔ Denotes (Text.trim text) value := by
        constructor
        · rintro ⟨other, core, toldOther, trimmed, denotes⟩
          rw [Environment.text?_eq_some_iff.mpr toldOther] at said
          cases said
          exact Text.trim_eq_iff.mpr trimmed ▸ denotes
        · exact fun denotes => ⟨text, _, told, Text.trimmed_trim text, denotes⟩
      dsimp only
      cases reads : read (Text.trim text) with
      | ok value =>
          refine .inl ⟨some value, rfl, fun other => ?_⟩
          cases other with
          | none => exact ⟨fun silent => absurd told (silent text), nofun⟩
          | some other =>
              rw [gives_some, ← exact, reads, Except.ok.injEq, Option.some.injEq]
      | error cause =>
          refine .inr ⟨cause, rfl, ?_⟩
          rintro ⟨value?, gives⟩
          cases value? with
          | none => exact gives text told
          | some value =>
              rw [gives_some, ← exact, reads] at gives
              cases gives

theorem setting?_eq_ok_iff :
    setting? environment read name = .ok value? ↔ Gives environment Denotes name value? := by
  rcases setting?_cases exact environment name with ⟨found, ok, only⟩ | ⟨cause, error, ill⟩
  · rw [ok, only, Except.ok.injEq]
  · rw [error]
    exact ⟨nofun, fun gives => absurd ⟨_, gives⟩ ill⟩

theorem goesBy_setting? (environment : Environment) (name : String) :
    GoesBy (setting? environment read name) [(name, WellFormed environment Denotes name)] := by
  rcases setting?_cases exact environment name with ⟨found, ok, only⟩ | ⟨cause, error, ill⟩
  · rw [ok]
    exact .ok (List.forall_mem_singleton.mpr ⟨found, (only found).mpr rfl⟩)
  · rw [error]
    exact .error (.here ill)

end Setting

/-- Read the four variables. -/
def readSettings (environment : Environment) : Except Fault Settings := do
  let threads ← setting? environment readToggle "KWASM_THREADS"
  let workers ← setting? environment readWord "KWASM_MAX_WORKERS"
  let initialPages ← setting? environment readWord "KWASM_MEMORY_PAGES"
  let maximumPages ← setting? environment readWord "KWASM_MAX_MEMORY_PAGES"
  return { threads, workers, initialPages, maximumPages }

theorem ofEnvironment_eq (environment : Environment) :
    ofEnvironment environment = (do
      let settings ← readSettings environment
      settings.configuration.validate
      return settings.configuration) := by
  simp only [ofEnvironment, readSettings, bind_assoc, pure_bind, Settings.configuration]

theorem readSettings_eq_ok_iff {settings : Settings} :
    readSettings environment = .ok settings ↔ settings.Of environment := by
  have toggle (name value?) : setting? environment readToggle name = .ok value? ↔
      Gives environment Answers name value? :=
    setting?_eq_ok_iff fun _ _ => readToggle_eq_ok_iff
  have number (name value?) : setting? environment readWord name = .ok value? ↔
      Gives environment Decimal.Writes name value? :=
    setting?_eq_ok_iff fun _ _ => readWord_eq_ok_iff
  simp only [readSettings, bind_eq_ok_iff, toggle, number]
  constructor
  · rintro ⟨_, threads, _, workers, _, initialPages, _, maximumPages, same⟩
    cases same
    exact ⟨threads, workers, initialPages, maximumPages⟩
  · rintro ⟨threads, workers, initialPages, maximumPages⟩
    exact ⟨_, threads, _, workers, _, initialPages, _, maximumPages, rfl⟩

theorem goesBy_readSettings (environment : Environment) :
    GoesBy (readSettings environment) (demands environment) := by
  refine .bind (goesBy_setting? (fun _ _ => readToggle_eq_ok_iff) _ _) fun _ _ => ?_
  refine .bind (goesBy_setting? (fun _ _ => readWord_eq_ok_iff) _ _) fun _ _ => ?_
  refine .bind (goesBy_setting? (fun _ _ => readWord_eq_ok_iff) _ _) fun _ _ => ?_
  exact (goesBy_setting? (fun _ _ => readWord_eq_ok_iff) _ _).map _

/-- The environment asks for a configuration: it is the default one with the settings of the
environment in place, and it is valid. -/
def AskedFor (environment : Environment) (config : Configuration) : Prop :=
  ∃ settings : Settings, settings.Of environment ∧ settings.configuration = config ∧
    config.validate = .ok ()

/-- A field is to blame: it is the first variable that is ill-formed, or no variable is and it is
the field of the first rule that the configuration breaks. -/
inductive Blamed (environment : Environment) (field : String) : Prop where
  | illFormed (first : FirstFailing (demands environment) field)
  | invalid (settings : Settings) (wellFormed : settings.Of environment)
      (first : FirstFailing settings.configuration.rules field)

theorem blamed_iff_of_illFormed (refused : ∀ settings, ¬ Settings.Of environment settings) :
    Blamed environment field ↔ FirstFailing (demands environment) field := by
  refine ⟨fun blamed => ?_, .illFormed⟩
  cases blamed with
  | illFormed first => exact first
  | invalid settings wellFormed => exact absurd wellFormed (refused settings)

theorem blamed_iff_of_settings {settings : Settings}
    (settled : readSettings environment = .ok settings) :
    Blamed environment field ↔ FirstFailing settings.configuration.rules field := by
  have goes := goesBy_readSettings environment
  have of := readSettings_eq_ok_iff.mp settled
  refine ⟨fun blamed => ?_, .invalid settings of⟩
  cases blamed with
  | illFormed first => exact absurd (goes.exists_ok_iff.mp ⟨settings, settled⟩) first.not_all
  | invalid other wellFormed first =>
      cases settled.symm.trans (readSettings_eq_ok_iff.mpr wellFormed)
      exact first

/-- The configuration that the environment asks for is made exactly if there is one, and else the
field that is to blame is named. -/
theorem ofEnvironment_exact (environment : Environment) :
    (∀ config, ofEnvironment environment = .ok config ↔ AskedFor environment config) ∧
      (∀ field, (∃ cause, ofEnvironment environment = .error (.configuration field cause)) ↔
        Blamed environment field) ∧
      ∀ fault, ofEnvironment environment = .error fault →
        ∃ field cause, fault = .configuration field cause := by
  rw [ofEnvironment_eq]
  have read := goesBy_readSettings environment
  cases settled : readSettings environment with
  | error fault =>
      have refused (settings : Settings) : ¬ settings.Of environment := fun wellFormed => by
        cases settled.symm.trans (readSettings_eq_ok_iff.mpr wellFormed)
      rw [settled] at read
      cases read with
      | @error blamed cause _ first =>
          have goes : @GoesBy Configuration (.error (.configuration blamed cause)) _ := .error first
          refine ⟨fun config => ⟨nofun, fun ⟨_, of, _⟩ => absurd of (refused _)⟩, fun field => ?_,
            fun _ => goes.exists_configuration⟩
          exact goes.exists_error_iff.trans (blamed_iff_of_illFormed refused).symm
  | ok settings =>
      have goes := (goesBy_validate settings.configuration).map fun _ => settings.configuration
      refine ⟨fun config => ?_, fun field => ?_, fun _ => goes.exists_configuration⟩
      · constructor
        · intro made
          obtain ⟨_, same, made⟩ := bind_eq_ok_iff.mp made
          cases same
          obtain ⟨_, checked, same⟩ := bind_eq_ok_iff.mp made
          cases same
          exact ⟨settings, readSettings_eq_ok_iff.mp settled, rfl, checked⟩
        · rintro ⟨other, of, rfl, checked⟩
          cases settled.symm.trans (readSettings_eq_ok_iff.mpr of)
          exact bind_eq_ok_iff.mpr ⟨_, rfl, bind_eq_ok_iff.mpr ⟨(), checked, rfl⟩⟩
      · exact goes.exists_error_iff.trans (blamed_iff_of_settings settled).symm

example :
    ofEnvironment ⟨[("KWASM_MAX_WORKERS", Text.Utf8.encode " +007"),
      ("KWASM_THREADS", Text.Utf8.encode "oFF\n")]⟩ =
        .ok { threads := false, workers := some 7 } := by
  decide +kernel

end Configuration

end WasmBridge
