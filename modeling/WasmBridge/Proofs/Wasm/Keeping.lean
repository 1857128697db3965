import Mathlib.Data.Finset.Card
import Mathlib.Data.List.Forall2
import Mathlib.Data.List.Induction
import WasmBridge.Wasm.Compiler

/-!
# Compilers that keep modules

A compiler that keeps modules answers every call as one that keeps none, as long as it is
given no two files with one digest.  What it keeps are the modules of the files that it
compiled since they were forgotten last, each file once.  This is so for every engine: nothing
is asked of it but that the module of a file is settled by the bytes.
-/

namespace WasmBridge.Wasm.Compiler

variable {engine : Engine} {compiler : Compiler} {name : String} {bytes : Bytes}
  {files : List Bytes} {fault : Fault} {module : Module}

/-! ## Calls -/

/-- A call on a compiler. -/
inductive Call where
  | compile (name : String) (bytes : Bytes)
  | clear

/-- What a call came to. -/
inductive Event where
  | compiled (name : String) (bytes : Bytes) (answer : Except Fault Compiled)
  | cleared

/-- One call.  A file that is refused leaves the compiler as it was. -/
def step (engine : Engine) (compiler : Compiler) : Call → Event × Compiler
  | .compile name bytes =>
    match compiler.compileBy engine name bytes with
    | .ok (compiled, next) => (.compiled name bytes (.ok compiled), next)
    | .error fault => (.compiled name bytes (.error fault), compiler)
  | .clear => (.cleared, compiler.clear)

/-- The history of a sequence of calls, and the compiler as it is afterwards. -/
def run (engine : Engine) (compiler : Compiler) : List Call → List Event × Compiler
  | [] => ([], compiler)
  | call :: rest =>
    let (event, next) := compiler.step engine call
    let (events, last) := next.run engine rest
    (event :: events, last)

/-- The compiler that is told to keep nothing. -/
def forgetful (compiler : Compiler) : Compiler :=
  { compiler with config := { compiler.config with keepModules := false } }

/-- No two of the files to be compiled have the same digest. -/
def Distinguishes (engine : Engine) (calls : List Call) : Prop :=
  ∀ name bytes other alike, .compile name bytes ∈ calls → .compile other alike ∈ calls →
    engine.digestOf bytes = engine.digestOf alike → bytes = alike

/-- What comes of a file under a name, whatever was compiled before. -/
def answer (engine : Engine) (compiler : Compiler) (name : String) (bytes : Bytes) :
    Except Fault Compiled :=
  (compiler.read engine name bytes).map fun module => ⟨name, module, engine.digestOf bytes⟩

/-- What a call comes to, whatever was compiled before. -/
def eventOf (engine : Engine) (compiler : Compiler) : Call → Event
  | .compile name bytes => .compiled name bytes (compiler.answer engine name bytes)
  | .clear => .cleared

namespace Event

/-- Whether a file was to be compiled. -/
def isCompilation : Event → Bool
  | compiled .. => true
  | cleared => false

/-- The file that was compiled. -/
def file? : Event → Option Bytes
  | compiled _ bytes (.ok _) => some bytes
  | _ => none

end Event

/-- The files that were compiled since the modules were forgotten last, the latest first. -/
def compiledFiles (events : List Event) : List Bytes :=
  (events.reverse.takeWhile Event.isCompilation).filterMap Event.file?

@[simp] theorem run_cons_fst (call : Call) (rest : List Call) :
    (compiler.run engine (call :: rest)).1 =
      (compiler.step engine call).1 :: ((compiler.step engine call).2.run engine rest).1 :=
  rfl

@[simp] theorem run_cons_snd (call : Call) (rest : List Call) :
    (compiler.run engine (call :: rest)).2 =
      ((compiler.step engine call).2.run engine rest).2 :=
  rfl

theorem run_concat (engine : Engine) (compiler : Compiler) (calls : List Call)
    (call : Call) :
    compiler.run engine (calls ++ [call]) =
      ((compiler.run engine calls).1 ++ [((compiler.run engine calls).2.step engine call).1],
        ((compiler.run engine calls).2.step engine call).2) := by
  induction calls generalizing compiler with
  | nil => rfl
  | cons first rest ih =>
      refine Prod.ext ?_ ?_
      · rw [List.cons_append, run_cons_fst, ih, run_cons_fst, run_cons_snd, List.cons_append]
      · rw [List.cons_append, run_cons_snd, ih, run_cons_snd]

theorem compiledFiles_concat (events : List Event) (event : Event) :
    compiledFiles (events ++ [event]) =
      match event with
      | .compiled _ bytes (.ok _) => bytes :: compiledFiles events
      | .compiled _ _ (.error _) => compiledFiles events
      | .cleared => [] := by
  unfold compiledFiles
  rw [List.reverse_append, List.reverse_singleton, List.singleton_append, List.takeWhile_cons]
  cases event with
  | compiled name bytes answer => cases answer <;> rfl
  | cleared => rfl

/-! ## One file -/

/-- A file is refused only by the engine, and under the name it was given with. -/
theorem read_eq_ok_iff :
    compiler.read engine name bytes = .ok module ↔
      engine.moduleOf compiler.config.threads bytes = .ok module := by
  unfold read
  cases engine.moduleOf compiler.config.threads bytes with
  | ok found =>
      constructor <;>
      · intro same
        cases same
        rfl
  | error cause => exact ⟨nofun, nofun⟩

theorem read_eq_error_iff :
    compiler.read engine name bytes = .error fault ↔
      ∃ cause, engine.moduleOf compiler.config.threads bytes = .error cause ∧
        fault = .moduleLoad name cause := by
  unfold read
  cases engine.moduleOf compiler.config.threads bytes with
  | ok found => exact ⟨nofun, fun ⟨_, impossible, _⟩ => by cases impossible⟩
  | error cause =>
      constructor
      · intro same
        cases same
        exact ⟨cause, rfl, rfl⟩
      · rintro ⟨_, same, rfl⟩
        cases same
        rfl

theorem answer_of_reads (reads : compiler.read engine name bytes = .ok module) :
    compiler.answer engine name bytes = .ok ⟨name, module, engine.digestOf bytes⟩ := by
  rw [answer, reads]
  rfl

theorem answer_of_refused (refused : compiler.read engine name bytes = .error fault) :
    compiler.answer engine name bytes = .error fault := by
  rw [answer, refused]
  rfl

/-- A file of which nothing is kept is read. -/
theorem step_of_unkept (unkept : compiler.kept? (engine.digestOf bytes) = none) :
    compiler.step engine (.compile name bytes) =
      (.compiled name bytes (compiler.answer engine name bytes),
        match compiler.read engine name bytes with
        | .ok module => compiler.keep (engine.digestOf bytes) module
        | .error _ => compiler) := by
  dsimp only [step, compileBy, answer]
  rw [unkept]
  cases compiler.read engine name bytes <;> rfl

/-- A file of which the module is kept is not read again. -/
theorem step_of_kept (kept : compiler.kept? (engine.digestOf bytes) = some module)
    (same : compiler.read engine name bytes = .ok module) :
    compiler.step engine (.compile name bytes) =
      (.compiled name bytes (compiler.answer engine name bytes), compiler) := by
  dsimp only [step, compileBy, answer]
  rw [kept, same]
  rfl

/-! ## What is kept -/

/-- What is kept for a file: its module, under its digest. -/
structure Stores (engine : Engine) (compiler : Compiler) (bytes : Bytes)
    (entry : UInt64 × Module) : Prop where
  key : entry.1 = engine.digestOf bytes
  module : engine.moduleOf compiler.config.threads bytes = .ok entry.2

/-- A module that is found by the digest of a file is the module of the file, if no other file
has that digest. -/
theorem reads_of_lookup {kept : List (UInt64 × Module)}
    (stores : List.Forall₂ (compiler.Stores engine) files kept)
    (alone : ∀ other ∈ files, engine.digestOf bytes = engine.digestOf other → bytes = other)
    (found : kept.lookup (engine.digestOf bytes) = some module) :
    bytes ∈ files ∧ compiler.read engine name bytes = .ok module := by
  induction stores with
  | nil => cases found
  | @cons file entry files kept this _ ih =>
      rw [List.lookup_cons] at found
      split at found
      next same =>
        cases found
        obtain rfl : bytes = file :=
          alone file List.mem_cons_self ((eq_of_beq same).trans this.key)
        exact ⟨List.mem_cons_self, read_eq_ok_iff.mpr this.module⟩
      next =>
        obtain ⟨member, reads⟩ := ih
          (fun other among => alone other (List.mem_cons_of_mem _ among)) found
        exact ⟨List.mem_cons_of_mem _ member, reads⟩

/-- A file for which nothing is found is none of the files. -/
theorem not_mem_of_lookup {kept : List (UInt64 × Module)}
    (stores : List.Forall₂ (compiler.Stores engine) files kept)
    (missing : kept.lookup (engine.digestOf bytes) = none) : bytes ∉ files := by
  induction stores with
  | nil => exact List.not_mem_nil
  | @cons file entry files kept this _ ih =>
      rw [List.lookup_cons] at missing
      split at missing
      next => cases missing
      next other =>
        intro member
        rcases List.mem_cons.mp member with rfl | among
        · rw [this.key, beq_self_eq_true] at other
          cases other
        · exact ih missing among

/-- After some calls the compiler keeps the files that were compiled since the modules were
forgotten last, each once, or none if it is told to keep nothing. -/
structure Keeps (engine : Engine) (compiler : Compiler) (events : List Event)
    (files : List Bytes) : Prop where
  stores : List.Forall₂ (compiler.Stores engine) files compiler.kept
  distinct : files.Nodup
  mem_iff : ∀ bytes, bytes ∈ files ↔
    compiler.config.keepModules = true ∧ bytes ∈ compiledFiles events

namespace Keeps

variable {events : List Event}

theorem of_fresh (fresh : compiler.kept = []) : compiler.Keeps engine [] [] :=
  ⟨fresh ▸ .nil, .nil, fun _ => ⟨nofun, nofun⟩⟩

theorem keptCount (keeps : compiler.Keeps engine events files) :
    compiler.keptCount =
      if compiler.config.keepModules then (compiledFiles events).toFinset.card else 0 := by
  have count : compiler.keptCount = files.toFinset.card := by
    rw [List.toFinset_card_of_nodup keeps.distinct]
    exact keeps.stores.length_eq.symm
  rw [count]
  split
  next keep =>
    congr 1
    ext bytes
    simp [keeps.mem_iff, keep]
  next keep =>
    rw [Finset.card_eq_zero, List.toFinset_eq_empty_iff, List.eq_nil_iff_forall_not_mem]
    exact fun bytes member => keep ((keeps.mem_iff bytes).mp member).1

/-- Nothing else than the file is found by its digest. -/
theorem kept?_cases (keeps : compiler.Keeps engine events files) (name : String)
    (alone : ∀ other ∈ files, engine.digestOf bytes = engine.digestOf other → bytes = other) :
    (∃ module, compiler.kept? (engine.digestOf bytes) = some module ∧ bytes ∈ files ∧
      compiler.read engine name bytes = .ok module) ∨
    compiler.kept? (engine.digestOf bytes) = none ∧
      (compiler.config.keepModules = true → bytes ∉ files) := by
  unfold kept?
  cases keep : compiler.config.keepModules with
  | false => exact .inr ⟨rfl, nofun⟩
  | true =>
      rw [if_pos rfl]
      cases found : compiler.kept.lookup (engine.digestOf bytes) with
      | some module => exact .inl ⟨module, rfl, reads_of_lookup keeps.stores alone found⟩
      | none => exact .inr ⟨rfl, fun _ => not_mem_of_lookup keeps.stores found⟩

/-- A module that was read is kept as that of one more file. -/
theorem keep (keeps : compiler.Keeps engine events files) {compiled : Compiled}
    (new : compiler.config.keepModules = true → bytes ∉ files)
    (reads : compiler.read engine name bytes = .ok module) :
    ∃ later, (compiler.keep (engine.digestOf bytes) module).Keeps engine
      (events ++ [.compiled name bytes (.ok compiled)]) later := by
  unfold Compiler.keep
  cases keep : compiler.config.keepModules with
  | false =>
      refine ⟨files, keeps.stores, keeps.distinct, fun other => ?_⟩
      simp [keeps.mem_iff, keep]
  | true =>
      rw [if_pos rfl]
      refine ⟨bytes :: files, .cons ⟨rfl, read_eq_ok_iff.mp reads⟩ ?_,
        .cons (new keep) keeps.distinct, fun other => ?_⟩
      · exact keeps.stores.imp fun _ _ stores => ⟨stores.key, stores.module⟩
      simp [keeps.mem_iff, keep, compiledFiles_concat]

/-- A call comes to what it comes to by itself, and the compiler keeps what it should. -/
theorem step (keeps : compiler.Keeps engine events files) (call : Call)
    (alone : ∀ name bytes, call = .compile name bytes → ∀ other ∈ files,
      engine.digestOf bytes = engine.digestOf other → bytes = other) :
    (compiler.step engine call).1 = compiler.eventOf engine call ∧
      ∃ later, (compiler.step engine call).2.Keeps engine
        (events ++ [compiler.eventOf engine call]) later := by
  cases call with
  | clear =>
      refine ⟨rfl, [], .nil, .nil, fun bytes => ?_⟩
      simp [eventOf, compiledFiles_concat]
  | compile name bytes =>
      rcases keeps.kept?_cases name (alone name bytes rfl) with
        ⟨module, kept, member, reads⟩ | ⟨unkept, new⟩
      · rw [step_of_kept kept reads]
        refine ⟨rfl, files, keeps.stores, keeps.distinct, fun other => ?_⟩
        obtain ⟨keep, among⟩ := (keeps.mem_iff bytes).mp member
        simp only [keeps.mem_iff, eventOf, answer_of_reads reads, compiledFiles_concat,
          List.mem_cons, keep, true_and]
        exact ⟨.inr, fun either => either.elim (fun same => same ▸ among) id⟩
      · rw [step_of_unkept unkept]
        refine ⟨rfl, ?_⟩
        cases reads : compiler.read engine name bytes with
        | ok module =>
            rw [eventOf, answer_of_reads reads]
            exact keeps.keep new reads
        | error fault =>
            refine ⟨files, keeps.stores, keeps.distinct, fun other => ?_⟩
            simp only [keeps.mem_iff, eventOf, answer_of_refused reads, compiledFiles_concat]

end Keeps

/-! ## Sequences of calls -/

/-- Calls change nothing of a compiler but what it keeps. -/
theorem exists_step_snd (engine : Engine) (compiler : Compiler) (call : Call) :
    ∃ kept, (compiler.step engine call).2 = { compiler with kept } := by
  cases call with
  | clear => exact ⟨[], rfl⟩
  | compile name bytes =>
      dsimp only [step, compileBy, Compiler.keep]
      cases compiler.kept? (engine.digestOf bytes) with
      | some module => exact ⟨_, rfl⟩
      | none =>
          cases compiler.read engine name bytes with
          | error fault => exact ⟨_, rfl⟩
          | ok module =>
              cases compiler.config.keepModules with
              | true => exact ⟨_, rfl⟩
              | false => exact ⟨_, rfl⟩

theorem exists_compile_of_mem_compiledFiles {calls : List Call}
    (member : bytes ∈ compiledFiles (calls.map (compiler.eventOf engine))) :
    ∃ name, .compile name bytes ∈ calls := by
  obtain ⟨event, among, file⟩ := List.mem_filterMap.mp member
  have past := List.mem_reverse.mp ((List.takeWhile_sublist _).subset among)
  obtain ⟨call, asked, rfl⟩ := List.mem_map.mp past
  cases call with
  | clear => cases file
  | compile name other =>
      dsimp only [eventOf] at file
      cases answered : compiler.answer engine name other with
      | error fault =>
          rw [answered] at file
          cases file
      | ok compiled =>
          rw [answered] at file
          cases file
          exact ⟨name, asked⟩

/-- Every call comes to what it comes to by itself, and the compiler keeps what it should. -/
theorem run_of_fresh (fresh : compiler.kept = []) {calls : List Call}
    (distinguishes : Distinguishes engine calls) :
    (compiler.run engine calls).1 = calls.map (compiler.eventOf engine) ∧
      ∃ kept files, (compiler.run engine calls).2 = { compiler with kept } ∧
        Keeps engine { compiler with kept } (calls.map (compiler.eventOf engine)) files := by
  induction calls using List.reverseRecOn with
  | nil => exact ⟨rfl, [], [], by rw [run, ← fresh], .of_fresh rfl⟩
  | append_singleton calls call ih =>
      obtain ⟨history, kept, files, last, keeps⟩ := ih fun name bytes other alike here there =>
        distinguishes name bytes other alike (List.mem_append_left _ here)
          (List.mem_append_left _ there)
      obtain ⟨event, later, keepsLater⟩ := keeps.step call fun name bytes called other member => by
        obtain ⟨-, compiled⟩ := (keeps.mem_iff other).mp member
        obtain ⟨asked, before⟩ := exists_compile_of_mem_compiledFiles compiled
        subst called
        exact distinguishes name bytes asked other List.mem_concat_self
          (List.mem_append_left _ before)
      obtain ⟨keptLater, lastLater⟩ := exists_step_snd engine { compiler with kept } call
      rw [run_concat, history, last, event, List.map_append]
      refine ⟨rfl, keptLater, later, lastLater, ?_⟩
      rw [lastLater] at keepsLater
      exact keepsLater

/-- A compiler that is told to keep nothing goes by what a call comes to by itself. -/
theorem run_of_forgetting (forgets : compiler.config.keepModules = false) (calls : List Call) :
    (compiler.run engine calls).1 = calls.map (compiler.eventOf engine) := by
  induction calls generalizing compiler with
  | nil => rfl
  | cons call rest ih =>
      have event : (compiler.step engine call).1 = compiler.eventOf engine call := by
        cases call with
        | clear => rfl
        | compile name bytes =>
            have unkept : compiler.kept? (engine.digestOf bytes) = none := by
              rw [kept?, forgets]
              rfl
            rw [step_of_unkept unkept]
            rfl
      obtain ⟨kept, next⟩ := exists_step_snd engine compiler call
      have later := @ih { compiler with kept } forgets
      rw [run_cons_fst, event, next, later]
      rfl

/-- That a compiler keeps modules is not noticed in a sequence of calls. -/
structure Unnoticed (engine : Engine) (compiler : Compiler) (calls : List Call) :
    Prop where
  /-- A compiler that keeps nothing is as possible as this one. -/
  possible : compiler.forgetful.config.validate = compiler.config.validate
  /-- Every call is answered as if nothing were kept. -/
  answers : (compiler.run engine calls).1 = (compiler.forgetful.run engine calls).1
  /-- What is compiled is the module of the file, under the name of this very call. -/
  modules : ∀ name bytes compiled,
    .compiled name bytes (.ok compiled) ∈ (compiler.run engine calls).1 →
      compiled.name = name ∧ compiled.digest = engine.digestOf bytes ∧
        engine.moduleOf compiler.config.threads bytes = .ok compiled.module
  /-- What is refused is no module, and is refused under the name of this very call. -/
  refusals : ∀ name bytes fault,
    .compiled name bytes (.error fault) ∈ (compiler.run engine calls).1 →
      ∃ cause, engine.moduleOf compiler.config.threads bytes = .error cause ∧
        fault = .moduleLoad name cause
  /-- A file that is refused leaves the compiler as it was. -/
  unchanged : ∀ early name bytes fault,
    (compiler.run engine early).2.compileBy engine name bytes = .error fault →
      (compiler.run engine (early ++ [.compile name bytes])).2 = (compiler.run engine early).2
  /-- As many modules are kept as files were compiled since the modules were forgotten last,
  or none. -/
  count : (compiler.run engine calls).2.keptCount =
    if compiler.config.keepModules then
      (compiledFiles (compiler.run engine calls).1).toFinset.card
    else 0

/-- A compiler that begins with nothing kept may keep modules unnoticed, as long as it is given
no two files with one digest. -/
theorem keeping_unnoticed (engine : Engine) (compiler : Compiler)
    (fresh : compiler.kept = []) (calls : List Call)
    (distinguishes : Distinguishes engine calls) : compiler.Unnoticed engine calls := by
  obtain ⟨history, kept, files, last, keeps⟩ := run_of_fresh fresh distinguishes
  have plain : (compiler.forgetful.run engine calls).1 = calls.map (compiler.eventOf engine) :=
    run_of_forgetting rfl calls
  have answered {name bytes answer}
      (member : .compiled name bytes answer ∈ (compiler.run engine calls).1) :
      compiler.answer engine name bytes = answer := by
    rw [history] at member
    obtain ⟨call, -, event⟩ := List.mem_map.mp member
    cases call with
    | clear => cases event
    | compile name bytes =>
        cases event
        rfl
  refine
    { possible := rfl
      answers := history.trans plain.symm
      modules := fun name bytes compiled member => ?_
      refusals := fun name bytes fault member => ?_
      unchanged := fun early name bytes fault refused => ?_
      count := ?_ }
  · have came := answered member
    cases reads : compiler.read engine name bytes with
    | error fault => cases (answer_of_refused reads).symm.trans came
    | ok module =>
        cases (answer_of_reads reads).symm.trans came
        exact ⟨rfl, rfl, read_eq_ok_iff.mp reads⟩
  · have came := answered member
    cases reads : compiler.read engine name bytes with
    | error other =>
        cases (answer_of_refused reads).symm.trans came
        exact read_eq_error_iff.mp reads
    | ok module => cases (answer_of_reads reads).symm.trans came
  · rw [run_concat]
    dsimp only [step]
    rw [refused]
  · rw [last, history]
    exact keeps.keptCount

/-- The same file under two names, and one that is no module. -/
def sharingCalls : List Call :=
  [.compile "first" emptyBinary, .compile "second" emptyBinary, .compile "third" []]

/-- A file that comes again under another name is kept once and bears its own name, and what is
no module is not kept. -/
theorem keeping_unnoticed_sharing :
    Distinguishes .standard sharingCalls ∧
      (Compiler.mk {} []).Unnoticed .standard sharingCalls ∧
      ((Compiler.mk {} []).run .standard sharingCalls).2.keptCount = 1 := by
  have apart : digest emptyBinary ≠ digest [] := by decide
  have files {name bytes} (called : Call.compile name bytes ∈ sharingCalls) :
      bytes = emptyBinary ∨ bytes = [] := by
    simp only [sharingCalls, List.mem_cons, Call.compile.injEq, List.not_mem_nil, or_false]
      at called
    rcases called with ⟨-, rfl⟩ | ⟨-, rfl⟩ | ⟨-, rfl⟩
    exacts [.inl rfl, .inl rfl, .inr rfl]
  have distinguishes : Distinguishes .standard sharingCalls := by
    intro name bytes other alike here there same
    rcases files here with rfl | rfl <;> rcases files there with rfl | rfl
    · rfl
    · exact absurd same apart
    · exact absurd same.symm apart
    · rfl
  have unnoticed := keeping_unnoticed .standard (Compiler.mk {} []) rfl sharingCalls distinguishes
  exact ⟨distinguishes, unnoticed, unnoticed.count.trans (by decide +kernel)⟩

end WasmBridge.Wasm.Compiler
