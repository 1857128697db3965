import WasmBridge.Worker.Run

/-!
# Sessions

A session holds a host at work: what its contexts share, its main contexts, and
the threads of its workers that did not end.  Main contexts act one at a time.
Workers go on when someone waits: a main context for a word of shared memory, or
whoever joins the workers or awaits a phase.  Between the points where a thread
waits it is not interrupted.  What is waited for may never come: a join has a value only if
every thread it joins ends.
-/

namespace WasmBridge

/-- A host at work. -/
structure Session where
  host : Host
  shared : Shared
  /-- The main contexts, in the order they were made. -/
  contexts : Array Context := #[]
  /-- The threads of workers that did not end. -/
  threads : List (UInt32 × Thread Shared Unit) := []

namespace Session

/-- A session of a host that did nothing yet. -/
def new (host : Host) (heap : Heap) (functions : Functions) : Session :=
  let memory := match host.plan with
    | .shared planned => planned.create
    | _ => { pages := 0, limit := 0 }
  { host, shared := { heap, functions, memory } }

/-- Make threads for the workers that were started since. -/
def adopt (session : Session) : Session :=
  let (started, pool) := session.shared.pool.takeStarted
  let shared := { session.shared with pool }
  let threads := started.map fun (worker, launch) =>
    (worker, session.host.workerThread shared worker launch)
  { session with shared, threads := session.threads ++ threads }

/-- Let a thread go on if it can: what became of it, and the shared state. -/
def resume (shared : Shared) (thread : Thread Shared Unit) : Option (Thread Shared Unit) :=
  match thread with
  | .done _ _ => none
  | .waiting _ ready resume => if ready shared then some (resume shared) else none

/-- Let the first thread that can go on do so; nothing if there is none. -/
def turn? (session : Session) : Option Session :=
  go session.adopt [] session.adopt.threads
where
  go (session : Session) (before : List (UInt32 × Thread Shared Unit)) :
      List (UInt32 × Thread Shared Unit) → Option Session
    | [] => none
    | (worker, thread) :: after =>
      match resume session.shared thread with
      | none => go session ((worker, thread) :: before) after
      | some next =>
        let rest := match next with
          | .done _ _ => []
          | next => [(worker, next)]
        let threads := before.reverse ++ after ++ rest
        some (adopt { session with shared := next.state, threads })

/-- A turn of a worker, unless a condition is met already. -/
def turnUnless (met : Session → Bool) (session : Session) : Session ⊕ Option Session :=
  if met session then .inl session else .inr session.turn?

/-- Give turns to workers until a condition is met.  There is no value if it never is, because
nobody can go on or turns are taken for ever. -/
def turnsUntil? (session : Session) (met : Session → Bool) : Option Session :=
  untilAnswer? (turnUnless met) session

/-- Let a thread of a main context go on, or a worker while it has to wait. -/
def advance {α : Type} :
    Session × Thread Shared α → (α × Session) ⊕ Option (Session × Thread Shared α)
  | (session, .done shared value) => .inl (value, { session with shared })
  | (session, .waiting shared ready next) =>
    let session := { session with shared }
    if ready shared then .inr (some (session, next shared))
    else .inr (session.turn?.map fun later => (later, .waiting later.shared ready next))

/-- Let a thread of a main context end, giving turns to workers while it waits.  There is no
value if it never ends. -/
def finish? {α : Type} (session : Session) (thread : Thread Shared α) : Option (α × Session) :=
  untilAnswer? advance (session, thread)

/-- Let a context act. -/
def act? {α : Type} (session : Session) (context : Context) (activity : Activity α) :
    Option ((α × Context) × Session) :=
  session.finish? (activity.run context session.shared)

/-- Let an existing main context act; nothing happens if there is no such
context. -/
def perform? {α : Type} (session : Session) (index : Nat) (activity : Activity α) :
    Option (Option α × Session) :=
  match session.contexts[index]? with
  | none => some (none, session)
  | some context => do
    let ((value, context), session) ← session.act? context activity
    return (some value, { session with contexts := session.contexts.setIfInBounds index context })

/-- Make a main context by an attempt; one that fails is not kept.  There is no value if the
attempt never ends. -/
def create? (session : Session) (attempt : Attempt Unit) :
    Option (Except Fault Unit × Session) := do
  let ((result, context), session) ← session.act? (Context.new session.host mainContext) attempt.run
  match result with
  | .ok () => return (.ok (), { session with contexts := session.contexts.push context })
  | .error fault => return (.error fault, session)

/-- Make a main context and let its guest begin.  There is no value if the guest never
returns. -/
def run? (session : Session) : Option (Except Fault Unit × Session) :=
  session.create? do
    session.host.openMain
    session.host.callMain session.host.entry

/-- Whether the thread of a worker ended. -/
def hasEnded (worker : UInt32) (session : Session) : Bool :=
  !session.shared.pool.started.any (·.1 == worker) && !session.threads.any (·.1 == worker)

/-- Join workers one after the other.  There is no value if one of them never ends. -/
def joinEach? (session : Session) (workers : List UInt32) : Option Session :=
  workers.foldlM (fun session worker => session.turnsUntil? (hasEnded worker)) session

/-- Take the handles of the pool and join their workers, unless there are none; `joined` threads
were joined before. -/
def joinRound : Nat × Session → (Nat × Session) ⊕ Option (Nat × Session)
  | (joined, session) =>
    let (handles, pool) := session.shared.pool.takeHandles
    if handles.isEmpty then .inl (joined, session)
    else
      let taken := { session with shared := { session.shared with pool } }
      .inr ((taken.joinEach? handles).map fun next => (joined + handles.length, next))

/-- Join every worker, also those that are started meanwhile, and answer with how many threads
were joined.  There is no value if one of them never ends. -/
def join? (session : Session) : Option (Nat × Session) :=
  untilAnswer? joinRound (0, session)

/-! ## Waiting -/

/-- Wait for what a session comes to. -/
def wait {α : Type} [Nonempty α] (session : Session) (answer : Option (α × Session)) :
    α × Session :=
  have : Nonempty Session := ⟨session⟩
  answer.awaited

/-- Let an existing main context act, and wait until it did. -/
def perform {α : Type} (session : Session) (index : Nat) (activity : Activity α) :
    Option α × Session :=
  session.wait (session.perform? index activity)

/-- Make a main context whose guest did not begin yet. -/
def instantiate (session : Session) : Except Fault Unit × Session :=
  session.wait (session.create? session.host.openMain)

/-- Make a main context, let its guest begin, and wait until it returns. -/
def run (session : Session) : Except Fault Unit × Session :=
  session.wait session.run?

/-- Wait for every worker, also for those that are started meanwhile, and answer
with how many threads were joined. -/
def join (session : Session) : Nat × Session :=
  session.wait session.join?

/-- Wait until a worker is in a phase. -/
def await (session : Session) (worker : UInt32) (phase : Phase) : Session :=
  have : Nonempty Session := ⟨session⟩
  (session.turnsUntil? fun session => session.shared.pool.phase? worker == some phase).awaited

/-! ## From outside -/

/-- Grow the shared memory from outside: its size before, in pages, if it grew. -/
def growShared (session : Session) (pages : Nat) : Option Nat × Session :=
  match session.shared.memory.grow? pages with
  | some (before, memory) =>
    (some before, { session with shared := { session.shared with memory } })
  | none => (none, session)

/-- The events of the contexts for which `wanted` holds, which are taken out of the
log. -/
def takeEvents (session : Session) (wanted : UInt32 → Bool) :
    List (UInt32 × Log.Event) × Session :=
  let (taken, left) := session.shared.log.toList.partition fun (id, _) => wanted id
  (taken, { session with shared := { session.shared with log := left.toArray } })

/-- The events of main contexts that were not taken yet. -/
def takeMainEvents (session : Session) : List Log.Event × Session :=
  let (taken, session) := session.takeEvents (· == mainContext)
  (taken.map Prod.snd, session)

/-- The events of workers that were not taken yet. -/
def takeWorkerEvents (session : Session) : List (UInt32 × Log.Event) × Session :=
  session.takeEvents (· != mainContext)

/-- What libraries noted, which is taken out of the journal. -/
def takeJournal (session : Session) : List Json × Session :=
  (session.shared.journal.toList,
    { session with shared := { session.shared with journal := #[] } })

end Session

end WasmBridge
