import Mathlib.Data.List.Infix
import Mathlib.Logic.Relation
import WasmBridge.Proofs.Worker.Outcomes

/-!
# The phases of a worker

The phases of one worker are recorded by many: by its caller, by its thread, and by whoever
joins the thread.  A chronicle keeps, for every call that starts a worker, the phases that were
recorded in it.  As long as no thread panics, they are the beginning of one of four lives.
-/

namespace WasmBridge

namespace Crew

variable {limit : Option UInt32} {crew later : Crew} {actor : Actor} {pool after : Pool}
  {call altered : Call} {place : Nat} {worker : UInt32} {phase : Phase} {history : List Phase}

/-! ## Lives -/

/-- What is recorded before a thread is there. -/
def requested : List Phase := [.idle, .spawning]

/-- The life of a worker whose thread was refused. -/
def refusedLife : List Phase := requested ++ [.failed]

/-- The lives of workers that had a thread: they failed before their guest ran, it returned,
or it failed. -/
def startedLives : List (List Phase) :=
  [requested ++ [.bootstrapping, .failed],
    requested ++ [.bootstrapping, .running, .finished],
    requested ++ [.bootstrapping, .running, .failed]]

/-- All lives. -/
def lives : List (List Phase) := refusedLife :: startedLives

/-- What can be recorded of a worker whose thread came so far without a panic. -/
def Progress.histories : Progress → List (List Phase)
  | .absent | .panicking | .exited true => []
  | .begun => [requested]
  | .bootstrapping => [requested ++ [.bootstrapping]]
  | .running => [requested ++ [.bootstrapping, .running]]
  | .ended | .exited false => startedLives

/-- What can be recorded of the worker of a call that came so far without a panic. -/
def Call.histories (call : Call) : List (List Phase) :=
  match call.stage with
  | .claiming | .numbering | .recordingIdle _ | .turnedAway _ => [[]]
  | .recordingSpawning _ => [[.idle]]
  | .starting _ | .givingBack _ | .recordingFailure _ => [requested]
  | .refused _ => [refusedLife]
  | .keeping _ | .started _ => call.thread.histories

theorem Call.histories_of_hasThread (has : call.stage.hasThread) :
    call.histories = call.thread.histories := by
  obtain ⟨caller, launch, stage, thread⟩ := call
  cases stage <;> first | rfl | cases has

/-- What a step does to what is recorded: nothing, or one phase more, under the number of the
worker. -/
def Tells (pool : Pool) (call : Call) (after : Pool) (altered : Call) : Prop :=
  (after.records = pool.records ∧ ∀ history ∈ call.histories, history ∈ altered.histories) ∨
    ∃ worker phase, altered.worker? = some worker ∧
      after.records = (worker, phase) :: pool.records ∧
      ∀ history ∈ call.histories, history ++ [phase] ∈ altered.histories

theorem Spawns.tells (spawns : Spawns limit pool call after altered) :
    Tells pool call after altered := by
  cases spawns with
  | claim stage granted =>
      obtain ⟨rfl, -⟩ := Pool.claim_eq_ok_iff.mp granted
      exact .inl ⟨rfl, by simp [Call.histories, stage]⟩
  | turnAway stage | number stage | refuse stage | giveBack stage =>
      exact .inl ⟨rfl, by simp [Call.histories, stage]⟩
  | start stage => exact .inl ⟨rfl, by simp [Call.histories, stage, Progress.histories]⟩
  | idle stage | spawning stage | fail stage =>
      exact .inr ⟨_, _, rfl, rfl, by simp [Call.histories, stage, requested, refusedLife]⟩

theorem Works.tells (works : Works pool call after altered) (coherent : call.Coherent)
    (calm : altered.thread ≠ .panicking) : Tells pool call after altered := by
  obtain ⟨present, -, stage, -⟩ := works.frame
  have has : call.stage.hasThread := coherent.mp present
  unfold Tells
  rw [Call.histories_of_hasThread has, Call.histories_of_hasThread (by rw [stage]; exact has)]
  cases works with
  | boot named thread | run named thread | finish named thread =>
      refine .inr ⟨_, _, named, rfl, ?_⟩
      rw [thread]
      dsimp only
      decide
  | fail named thread =>
      refine .inr ⟨_, _, named, rfl, ?_⟩
      cases progress : call.thread with
      | bootstrapping | running =>
          dsimp only
          decide
      | _ =>
          rw [progress] at thread
          cases thread
  | panic => exact absurd rfl calm
  | exit thread =>
      refine .inl ⟨rfl, ?_⟩
      rw [thread]
      dsimp only
      decide
  | unwind thread =>
      refine .inl ⟨rfl, ?_⟩
      rw [thread]
      dsimp only
      decide

theorem Alters.tells (alters : Alters limit pool call after altered) (coherent : call.Coherent)
    (calm : altered.thread ≠ .panicking) : Tells pool call after altered := by
  cases alters with
  | spawns spawns => exact spawns.tells
  | keeps stage => exact .inl ⟨rfl, by simp [Call.histories, stage]⟩
  | works works => exact works.tells coherent calm
  | records named thread =>
      refine .inr ⟨_, _, named, rfl, ?_⟩
      rw [Call.histories_of_hasThread (coherent.mp (by simp [thread])), thread]
      exact nofun

theorem Progress.concat_not_mem_histories (progress : Progress) (phase : Phase) :
    ∀ history ∈ progress.histories, history ++ [phase] ∉ progress.histories := by
  cases progress with
  | exited panicked => cases panicked <;> cases phase <;> decide
  | _ => cases phase <;> decide

/-- Where a phase more was recorded, the call has come further. -/
theorem Call.concat_not_mem_histories (told : history ∈ call.histories) :
    history ++ [phase] ∉ call.histories := by
  obtain ⟨caller, launch, stage, thread⟩ := call
  cases stage with
  | keeping | started => exact thread.concat_not_mem_histories phase history told
  | _ =>
      rw [List.mem_singleton.mp told]
      exact fun more => absurd (congrArg List.length (List.mem_singleton.mp more)) (by simp)

/-- What is recorded of a worker is the beginning of a life. -/
theorem Call.exists_life (told : history ∈ call.histories) : ∃ life ∈ lives, history <+: life := by
  have begins (progress : Progress) :
      ∀ history ∈ progress.histories, ∃ life ∈ lives, history <+: life := by
    cases progress with
    | exited panicked => cases panicked <;> decide
    | _ => decide
  obtain ⟨caller, launch, stage, thread⟩ := call
  cases stage with
  | keeping | started => exact begins thread history told
  | _ =>
      rw [List.mem_singleton.mp told]
      decide

/-- Only where the thread was refused a worker failed right away. -/
theorem Call.refused_of_history (told : refusedLife ∈ call.histories) :
    ∃ worker, call.stage = .refused worker := by
  have begins (progress : Progress) : refusedLife ∉ progress.histories := by
    cases progress with
    | exited panicked => cases panicked <;> decide
    | _ => decide
  obtain ⟨caller, launch, stage, thread⟩ := call
  cases stage with
  | keeping | started => exact absurd told (begins thread)
  | refused worker => exact ⟨worker, rfl⟩
  | _ => exact absurd (List.mem_singleton.mp told) (by decide)

/-- A worker that is recorded as live has a place, unless it was refused a thread. -/
theorem Call.holdsPlace_of_isLive (told : history ∈ call.histories)
    (last : history.getLast? = some phase) (live : phase.isLive)
    (granted : call.stage.isRefused = false) : call.holdsPlace := by
  have settled : ∀ history ∈ startedLives, history.getLast?.all (!·.isLive) := by decide
  have dead (none : history.getLast?.all (!·.isLive)) : False := by
    rw [last] at none
    simp [live] at none
  obtain ⟨caller, launch, stage, thread⟩ := call
  cases stage with
  | keeping | started =>
      cases thread with
      | exited panicked =>
          cases panicked with
          | true => cases told
          | false => exact (dead (settled history told)).elim
      | _ => rfl
  | claiming | turnedAway | recordingSpawning =>
      rw [List.mem_singleton.mp told] at dead
      exact (dead rfl).elim
  | refused | recordingFailure => cases granted
  | _ => rfl

end Crew

/-! ## Chronicles -/

/-- The phases that are recorded under a key, in order, of records with the latest first. -/
def phasesUnder {κ : Type} [DecidableEq κ] (key : κ) (records : List (κ × Phase)) : List Phase :=
  ((records.filter fun record => record.1 = key).map Prod.snd).reverse

theorem phasesUnder_cons {κ : Type} [DecidableEq κ] (key other : κ) (phase : Phase)
    (records : List (κ × Phase)) :
    phasesUnder key ((other, phase) :: records) =
      if other = key then phasesUnder key records ++ [phase] else phasesUnder key records := by
  by_cases same : other = key <;> simp [phasesUnder, same]

/-- The phase of a worker is the last one recorded under its number. -/
theorem Pool.phase?_eq (pool : Pool) (worker : UInt32) :
    pool.phase? worker = (phasesUnder worker pool.records).getLast? := by
  unfold Pool.phase?
  induction pool.records with
  | nil => rfl
  | cons record records ih =>
      obtain ⟨number, phase⟩ := record
      rw [List.lookup_cons, phasesUnder_cons]
      by_cases same : number = worker
      · rw [if_pos same, List.getLast?_concat, same, beq_self_eq_true]
      · rw [if_neg same, beq_eq_false_iff_ne.mpr (Ne.symm same)]
        exact ih

/-- A crew, and for the call at each place the phases that were recorded in it. -/
structure Chronicle where
  crew : Crew := {}
  history : Nat → List Phase := fun _ => []

namespace Chronicle

open Crew

/-- The phases that were recorded on the way from one pool to another, in order. -/
def newPhases (before after : Pool) : List Phase :=
  ((after.records.take (after.records.length - before.records.length)).map Prod.snd).reverse

/-- What a step records belongs to the call that the step changes. -/
def after (chronicle : Chronicle) (later : Crew) : Chronicle where
  crew := later
  history place :=
    if later.calls[place]? = chronicle.crew.calls[place]? then chronicle.history place
    else chronicle.history place ++ newPhases chronicle.crew.pool later.pool

/-- Somebody makes a step, and no thread panics. -/
inductive Step (limit : Option UInt32) (chronicle : Chronicle) : Chronicle → Prop where
  | step {actor : Actor} {later : Crew} (step : Crew.Step limit chronicle.crew actor later)
      (calm : ∀ call ∈ later.calls, call.thread ≠ .panicking) :
      Step limit chronicle (chronicle.after later)

/-- Steps, one after the other. -/
abbrev Leads (limit : Option UInt32) : Chronicle → Chronicle → Prop :=
  Relation.ReflTransGen (Step limit)

variable {limit : Option UInt32} {chronicle next : Chronicle} {later : Crew} {worker : UInt32}
  {phase : Phase} {place : Nat} {actor : Actor}

theorem history_after_of_same (records : later.pool.records = chronicle.crew.pool.records) :
    (chronicle.after later).history = chronicle.history := by
  funext place
  simp [Chronicle.after, newPhases, records]

theorem history_after_of_recorded
    (records : later.pool.records = (worker, phase) :: chronicle.crew.pool.records) :
    (chronicle.after later).history place =
      if later.calls[place]? = chronicle.crew.calls[place]? then chronicle.history place
      else chronicle.history place ++ [phase] := by
  simp [Chronicle.after, newPhases, records]

/-- A phase is added to the history of the one call that has changed. -/
theorem history_after_of_altered {call altered : Call}
    (found : chronicle.crew.calls[place]? = some call)
    (calls : later.calls = chronicle.crew.calls.set place altered) (changed : altered ≠ call)
    (records : later.pool.records = (worker, phase) :: chronicle.crew.pool.records)
    (other : Nat) :
    (chronicle.after later).history other =
      if place = other then chronicle.history other ++ [phase] else chronicle.history other := by
  rw [history_after_of_recorded records, calls]
  by_cases same : place = other
  · subst same
    have within := (List.getElem?_eq_some_iff.mp found).1
    rw [List.getElem?_set_self within, found, if_pos rfl,
      if_neg fun equal => changed (Option.some.inj equal)]
  · rw [List.getElem?_set_ne same, if_pos rfl, if_neg same]

/-- An entry for the call at a place is a record under the number of that call. -/
def Notes (calls : List Call) (entry : Nat × Phase) (record : UInt32 × Phase) : Prop :=
  entry.2 = record.2 ∧ ∃ call, calls[entry.1]? = some call ∧ call.worker? = some record.1

section Notes

variable {calls : List Call} {entries : List (Nat × Phase)} {records : List (UInt32 × Phase)}

/-- Nothing is recorded in a call that is not made. -/
theorem phasesUnder_of_absent (aligned : List.Forall₂ (Notes calls) entries records)
    (absent : calls[place]? = none) : phasesUnder place entries = [] := by
  induction aligned with
  | nil => rfl
  | @cons entry record entries records noted _ ih =>
      obtain ⟨other, told⟩ := entry
      obtain ⟨-, call, found, -⟩ := noted
      have apart : other ≠ place := by
        rintro rfl
        cases absent.symm.trans found
      rw [phasesUnder_cons, if_neg apart, ih]

/-- What is recorded under a number that only one call has is recorded in that call. -/
theorem phasesUnder_of_unique (aligned : List.Forall₂ (Notes calls) entries records)
    {call : Call} (found : calls[place]? = some call) (named : call.worker? = some worker)
    (unique : ∀ other call, calls[other]? = some call → call.worker? = some worker →
      other = place) : phasesUnder worker records = phasesUnder place entries := by
  induction aligned with
  | nil => rfl
  | @cons entry record entries records noted _ ih =>
      obtain ⟨other, told⟩ := entry
      obtain ⟨number, phase⟩ := record
      obtain ⟨rfl, caller, there, numbered⟩ := noted
      rw [phasesUnder_cons, phasesUnder_cons, ih]
      refine if_congr ⟨?_, ?_⟩ rfl rfl
      · rintro rfl
        exact unique other caller there numbered
      · rintro rfl
        cases found.symm.trans there
        exact Option.some.inj (numbered.symm.trans named)

/-- The phase of a number is the last one that was recorded in some call of that number. -/
theorem exists_last_of_lookup (aligned : List.Forall₂ (Notes calls) entries records)
    (recorded : records.lookup worker = some phase) :
    ∃ place call, calls[place]? = some call ∧ call.worker? = some worker ∧
      (phasesUnder place entries).getLast? = some phase := by
  induction aligned with
  | nil => cases recorded
  | @cons entry record entries records noted _ ih =>
      obtain ⟨other, told⟩ := entry
      obtain ⟨number, latest⟩ := record
      obtain ⟨rfl, caller, there, numbered⟩ := noted
      rw [List.lookup_cons] at recorded
      by_cases same : worker = number
      · subst same
        rw [beq_self_eq_true] at recorded
        cases recorded
        refine ⟨other, caller, there, numbered, ?_⟩
        rw [phasesUnder_cons, if_pos rfl, List.getLast?_concat]
      · rw [beq_eq_false_iff_ne.mpr same] at recorded
        obtain ⟨place, call, found, named, last⟩ := ih recorded
        refine ⟨place, call, found, named, ?_⟩
        have apart : other ≠ place := by
          rintro rfl
          cases found.symm.trans there
          exact same (Option.some.inj (named.symm.trans numbered))
        rw [phasesUnder_cons, if_neg apart, last]

end Notes

/-- The phases recorded in each call are what it can have told so far, and all of them
together are the records of the pool. -/
structure Faithful (chronicle : Chronicle) : Prop where
  coherent : chronicle.crew.Coherent
  told : ∀ place call, chronicle.crew.calls[place]? = some call →
    chronicle.history place ∈ call.histories
  aligned : ∃ entries, List.Forall₂ (Notes chronicle.crew.calls) entries
      chronicle.crew.pool.records ∧
    ∀ place, chronicle.history place = phasesUnder place entries

/-! ## Steps -/

/-- A number that a call has it keeps. -/
theorem named_of_step (step : Crew.Step limit chronicle.crew actor later)
    (found : ∃ call, chronicle.crew.calls[place]? = some call ∧ call.worker? = some worker) :
    ∃ call, later.calls[place]? = some call ∧ call.worker? = some worker := by
  refine step.call_of_alters (fun {call altered pool} alters named => ?_) found
  rcases alters.worker? with ⟨same, -⟩ | ⟨unnamed, -⟩
  · rwa [same]
  · rw [unnamed] at named
    cases named

theorem notes_of_step (step : Crew.Step limit chronicle.crew actor later)
    {entries : List (Nat × Phase)} {records : List (UInt32 × Phase)}
    (aligned : List.Forall₂ (Notes chronicle.crew.calls) entries records) :
    List.Forall₂ (Notes later.calls) entries records :=
  aligned.imp fun _ _ ⟨same, found⟩ => ⟨same, named_of_step step found⟩

/-- A step that records nothing leaves a chronicle faithful if every call can still have
told what it told. -/
theorem Faithful.of_same (faithful : chronicle.Faithful)
    (step : Crew.Step limit chronicle.crew actor later)
    (records : later.pool.records = chronicle.crew.pool.records)
    (told : ∀ place call, later.calls[place]? = some call →
      chronicle.history place ∈ call.histories) : (chronicle.after later).Faithful where
  coherent := step.coherent faithful.coherent
  told place call found := by
    rw [history_after_of_same records]
    exact told place call found
  aligned := by
    obtain ⟨entries, aligned, histories⟩ := faithful.aligned
    refine ⟨entries, ?_, fun place => ?_⟩
    · have kept := notes_of_step step aligned
      rwa [← records] at kept
    · rw [history_after_of_same records, histories]

/-- A step that records a phase leaves a chronicle faithful if the call that it changes can
have told the phase then. -/
theorem Faithful.of_recorded (faithful : chronicle.Faithful)
    (step : Crew.Step limit chronicle.crew actor later) {call altered : Call}
    (found : chronicle.crew.calls[place]? = some call)
    (calls : later.calls = chronicle.crew.calls.set place altered)
    (named : altered.worker? = some worker)
    (records : later.pool.records = (worker, phase) :: chronicle.crew.pool.records)
    (tells : ∀ history ∈ call.histories, history ++ [phase] ∈ altered.histories) :
    (chronicle.after later).Faithful := by
  have within := (List.getElem?_eq_some_iff.mp found).1
  have told := faithful.told place call found
  -- What the call told it can tell no more, so it has come further.
  have further : altered ≠ call := by
    rintro rfl
    exact altered.concat_not_mem_histories told (tells _ told)
  have history := history_after_of_altered found calls further records
  refine ⟨step.coherent faithful.coherent, fun other call there => ?_, ?_⟩
  · have placed : (chronicle.crew.calls.set place altered)[other]? = some call := calls ▸ there
    rw [history]
    rcases getElem?_set_cases placed with ⟨rfl, rfl⟩ | ⟨apart, old⟩
    · rw [if_pos rfl]
      exact tells _ told
    · rw [if_neg (Ne.symm apart)]
      exact faithful.told other call old
  · obtain ⟨entries, aligned, histories⟩ := faithful.aligned
    have noted : Notes later.calls (place, phase) (worker, phase) :=
      ⟨rfl, altered, calls ▸ List.getElem?_set_self within, named⟩
    refine ⟨(place, phase) :: entries, ?_, fun other => ?_⟩
    · have all := List.Forall₂.cons noted (notes_of_step step aligned)
      rwa [← records] at all
    · rw [history, phasesUnder_cons, histories]

theorem Faithful.step (faithful : chronicle.Faithful) (step : Step limit chronicle next) :
    next.Faithful := by
  obtain ⟨step, calm⟩ := step
  rcases step.calls with ⟨added, stage, -, calls, pool⟩ |
    ⟨place, call, altered, found, alters, calls⟩ | ⟨calls, pool⟩
  · refine faithful.of_same step (by rw [pool]) fun place call there => ?_
    rw [calls] at there
    rcases getElem?_append_cases there with ⟨rfl, rfl⟩ | old
    · obtain ⟨entries, aligned, histories⟩ := faithful.aligned
      rw [histories, phasesUnder_of_absent aligned (List.getElem?_eq_none (Nat.le_refl _))]
      simp [Call.histories, stage]
    · exact faithful.told place call old
  · have within := (List.getElem?_eq_some_iff.mp found).1
    rcases alters.tells (faithful.coherent call (List.mem_of_getElem? found))
        (calm altered (calls ▸ List.mem_set within altered)) with
      ⟨records, tells⟩ | ⟨worker, phase, named, records, tells⟩
    · refine faithful.of_same step records fun other call there => ?_
      rw [calls] at there
      rcases getElem?_set_cases there with ⟨rfl, rfl⟩ | ⟨-, old⟩
      · exact tells _ (faithful.told _ _ found)
      · exact faithful.told other call old
    · exact faithful.of_recorded step found calls named records tells
  · refine faithful.of_same step ?_ fun place call found => faithful.told place call (calls ▸ found)
    rcases pool with pool | pool <;> rw [pool]
    rfl

theorem faithful_empty : Faithful {} :=
  ⟨coherent_empty, nofun, [], .nil, fun _ => rfl⟩

theorem Leads.faithful (leads : Leads limit chronicle next) (faithful : chronicle.Faithful) :
    next.Faithful := by
  induction leads with
  | refl => exact faithful
  | tail _ step ih => exact ih.step step

theorem Leads.reachable (leads : Leads limit {} chronicle) : Reachable limit chronicle.crew := by
  induction leads with
  | refl => exact .refl
  | tail _ step ih =>
      obtain ⟨step, -⟩ := step
      exact .step ih trivial step

/-! ## Final phases -/

/-- Histories grow at their ends. -/
theorem Leads.history_prefix (leads : Leads limit chronicle next) (place : Nat) :
    chronicle.history place <+: next.history place := by
  induction leads with
  | refl => exact List.prefix_refl _
  | tail _ step ih =>
      obtain ⟨step, -⟩ := step
      refine ih.trans ?_
      dsimp only [Chronicle.after]
      split
      · exact List.prefix_refl _
      · exact List.prefix_append _ _

theorem Faithful.exists_life (faithful : chronicle.Faithful) (place : Nat) :
    ∃ life ∈ lives, chronicle.history place <+: life := by
  cases found : chronicle.crew.calls[place]? with
  | some call => exact Call.exists_life (faithful.told place call found)
  | none =>
      obtain ⟨entries, aligned, histories⟩ := faithful.aligned
      rw [histories, phasesUnder_of_absent aligned found]
      exact ⟨refusedLife, List.mem_cons_self, List.nil_prefix⟩

theorem Faithful.exists_refused (faithful : chronicle.Faithful)
    (told : chronicle.history place = refusedLife) :
    ∃ call worker, chronicle.crew.calls[place]? = some call ∧ call.stage = .refused worker := by
  cases found : chronicle.crew.calls[place]? with
  | some call =>
      obtain ⟨worker, stage⟩ := Call.refused_of_history (told ▸ faithful.told place call found)
      exact ⟨call, worker, rfl, stage⟩
  | none =>
      obtain ⟨entries, aligned, histories⟩ := faithful.aligned
      rw [histories, phasesUnder_of_absent aligned found] at told
      cases told

/-- A final phase is the last one of a life. -/
theorem eq_of_isFinal {life history : List Phase} (among : life ∈ lives)
    (begins : history <+: life) (told : phase ∈ history) (final : phase.isFinal) :
    history = life := by
  have ends : ∀ life ∈ lives, ∀ history ∈ life.inits, ∀ phase ∈ history, phase.isFinal →
      history = life := by decide
  exact ends life among history ((List.mem_inits _ _).mpr begins) phase told final

/-- A worker that is in a final phase stays in it. -/
theorem Faithful.final (faithful : chronicle.Faithful) (leads : Leads limit chronicle next)
    (told : phase ∈ chronicle.history place) (final : phase.isFinal) :
    next.history place = chronicle.history place := by
  have grows := leads.history_prefix place
  obtain ⟨life, among, begins⟩ := faithful.exists_life place
  obtain ⟨later, alive, continues⟩ := (leads.faithful faithful).exists_life place
  rw [eq_of_isFinal alive continues (grows.subset told) final]
  exact (eq_of_isFinal alive (grows.trans continues) told final).symm

/-! ## Numbers -/

/-- As long as workers have different numbers, what is recorded under the number of a worker
is its history. -/
theorem Faithful.phasesUnder_eq (faithful : chronicle.Faithful)
    (distinct : chronicle.crew.numbers.Nodup) {call : Call}
    (found : chronicle.crew.calls[place]? = some call) (named : call.worker? = some worker) :
    phasesUnder worker chronicle.crew.pool.records = chronicle.history place := by
  obtain ⟨entries, aligned, histories⟩ := faithful.aligned
  rw [histories]
  exact phasesUnder_of_unique aligned found named fun other caller there numbered =>
    eq_of_nodup_filterMap distinct there found numbered named

/-- The phase of a number was recorded last in some call of that number. -/
theorem Faithful.exists_last (faithful : chronicle.Faithful)
    (recorded : chronicle.crew.pool.phase? worker = some phase) :
    ∃ place call, chronicle.crew.calls[place]? = some call ∧ call.worker? = some worker ∧
      (chronicle.history place).getLast? = some phase := by
  obtain ⟨entries, aligned, histories⟩ := faithful.aligned
  simp only [histories]
  exact exists_last_of_lookup aligned recorded

theorem Leads.named (leads : Leads limit chronicle next)
    (found : ∃ call, chronicle.crew.calls[place]? = some call ∧ call.worker? = some worker) :
    ∃ call, next.crew.calls[place]? = some call ∧ call.worker? = some worker := by
  induction leads with
  | refl => exact found
  | tail _ step ih =>
      obtain ⟨step, -⟩ := step
      exact named_of_step step ih

/-- The phase of a worker is final for good as long as workers have different numbers. -/
theorem Faithful.phase?_eq (faithful : chronicle.Faithful) (leads : Leads limit chronicle next)
    (distinct : next.crew.numbers.Nodup) (recorded : chronicle.crew.pool.phase? worker = some phase)
    (final : phase.isFinal) : next.crew.pool.phase? worker = some phase := by
  obtain ⟨place, call, found, named, last⟩ := faithful.exists_last recorded
  obtain ⟨later, there, numbered⟩ := leads.named ⟨call, found, named⟩
  rw [Pool.phase?_eq, (leads.faithful faithful).phasesUnder_eq distinct there numbered,
    faithful.final leads (List.mem_of_getLast? last) final, last]

/-! ## Live workers -/

theorem nodup_workers (pool : Pool) : pool.workers.Nodup :=
  (List.mergeSort_perm _ _).nodup_iff.mpr (nodup_eraseDups _)

/-- If no thread was refused, a live worker is that of a call that has a place. -/
theorem Faithful.exists_holdsPlace (faithful : chronicle.Faithful)
    (granted : ∀ call ∈ chronicle.crew.calls, call.stage.isRefused = false)
    (recorded : chronicle.crew.pool.phase? worker = some phase) (live : phase.isLive) :
    ∃ call ∈ chronicle.crew.calls, call.holdsPlace ∧ call.worker? = some worker := by
  obtain ⟨place, call, found, named, last⟩ := faithful.exists_last recorded
  have made := List.mem_of_getElem? found
  have told := faithful.told place call found
  exact ⟨call, made, Call.holdsPlace_of_isLive told last live (granted call made), named⟩

/-- If no thread was refused, at most as many workers are recorded as live as there are
places taken. -/
theorem Faithful.live_le (faithful : chronicle.Faithful)
    (counted : chronicle.crew.pool.active = chronicle.crew.calls.countP Call.holdsPlace)
    (granted : ∀ call ∈ chronicle.crew.calls, call.stage.isRefused = false) :
    chronicle.crew.pool.snapshot.countP (·.2.isLive) ≤ chronicle.crew.pool.active := by
  -- Live workers have different numbers, and each is the number of a call that has a place.
  let live := chronicle.crew.pool.workers.filter fun worker =>
    ((chronicle.crew.pool.phase? worker).map Phase.isLive).getD false
  have among : live ⊆ (chronicle.crew.calls.filter Call.holdsPlace).filterMap Call.worker? := by
    intro worker member
    obtain ⟨-, isLive⟩ := List.mem_filter.mp member
    cases recorded : chronicle.crew.pool.phase? worker with
    | none => simp [recorded] at isLive
    | some phase =>
        simp only [recorded, Option.map_some, Option.getD_some] at isLive
        obtain ⟨call, made, holds, named⟩ := faithful.exists_holdsPlace granted recorded isLive
        exact List.mem_filterMap.mpr ⟨call, List.mem_filter.mpr ⟨made, holds⟩, named⟩
  have distinct : live.Nodup := (nodup_workers _).filter _
  calc chronicle.crew.pool.snapshot.countP (·.2.isLive) = live.length := by
        rw [Pool.snapshot, List.countP_filterMap, List.countP_eq_length_filter]
        simp only [Option.map_map]
        rfl
    _ ≤ ((chronicle.crew.calls.filter Call.holdsPlace).filterMap Call.worker?).length :=
        (List.subperm_of_subset distinct among).length_le
    _ ≤ (chronicle.crew.calls.filter Call.holdsPlace).length := List.length_filterMap_le _ _
    _ = chronicle.crew.pool.active := by rw [counted, List.countP_eq_length_filter]

end Chronicle

end WasmBridge
