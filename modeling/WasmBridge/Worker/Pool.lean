import WasmBridge.Fault
import WasmBridge.Text.Outline
import WasmBridge.Wire.Launch

/-!
# The pool of workers

The pool numbers the workers of a host, counts those that occupy a thread, and
records the phases they go through.  Every operation is one step: what workers
and the contexts that start them do at the same time is some order of such
steps.
-/

namespace WasmBridge

/-- How far a worker has come. -/
inductive Phase where
  /-- The worker has a number. -/
  | idle
  /-- A thread was asked for. -/
  | spawning
  /-- The module is being instantiated. -/
  | bootstrapping
  /-- The guest runs. -/
  | running
  /-- The guest returned. -/
  | finished
  /-- The worker could not be started, or the guest failed. -/
  | failed
deriving DecidableEq

namespace Phase

/-- Every phase. -/
def all : List Phase := [idle, spawning, bootstrapping, running, finished, failed]

/-- The title of a phase. -/
def name : Phase → String
  | idle => "Idle"
  | spawning => "Spawning"
  | bootstrapping => "Bootstrapping"
  | running => "Running"
  | finished => "Finished"
  | failed => "Failed"

/-- Whether a worker in the phase occupies a thread. -/
def isLive : Phase → Bool
  | spawning | bootstrapping | running => true
  | _ => false

end Phase

/-- The workers of a host. -/
structure Pool where
  /-- The number of the next worker; 0 is the main context. -/
  nextId : UInt32 := 1
  /-- How many threads are claimed and not given back.  The source counts in a word, which cannot
  wrap around: each thread is given back once, after it was claimed (`Crew.Step.active`), so that
  the count is never lowered at 0, and fewer than 2 ^ 32 threads are claimed at a time. -/
  active : Nat := 0
  /-- The phases recorded so far, the latest first. -/
  records : List (UInt32 × Phase) := []
  /-- The threads that were started and not yet taken to be joined, in order. -/
  handles : List UInt32 := []
  /-- The workers that were started and did not run yet, in order. -/
  started : List (UInt32 × Wire.Launch) := []
deriving DecidableEq

namespace Pool

/-- The phase of a worker. -/
def phase? (pool : Pool) (worker : UInt32) : Option Phase :=
  pool.records.lookup worker

/-- The workers that ever had a phase, in the order of their numbers. -/
def workers (pool : Pool) : List UInt32 :=
  ((pool.records.map Prod.fst).eraseDups).mergeSort (· ≤ ·)

/-- The workers and their phases, in the order of their numbers. -/
def snapshot (pool : Pool) : List (UInt32 × Phase) :=
  pool.workers.filterMap fun worker => (pool.phase? worker).map (worker, ·)

/-- How many workers there ever were. -/
def spawned (pool : Pool) : Nat :=
  pool.workers.length

/-- Claim a thread unless `limit` of them are claimed already. -/
def claim (pool : Pool) (limit : Option UInt32) : Except Fault Pool :=
  match limit with
  | some limit =>
    if limit.toNat ≤ pool.active then
      .error (.threadsUnavailable s!"all {limit} workers are busy")
    else .ok { pool with active := pool.active + 1 }
  | none => .ok { pool with active := pool.active + 1 }

/-- Give a thread back. -/
def giveBack (pool : Pool) : Pool :=
  { pool with active := pool.active - 1 }

/-- Number a worker. -/
def allocate (pool : Pool) : UInt32 × Pool :=
  (pool.nextId, { pool with nextId := pool.nextId + 1 })

/-- Record the phase of a worker. -/
def setPhase (pool : Pool) (worker : UInt32) (phase : Phase) : Pool :=
  { pool with records := (worker, phase) :: pool.records }

/-- Start the thread of a worker. -/
def start (pool : Pool) (worker : UInt32) (launch : Wire.Launch) : Pool :=
  { pool with started := pool.started ++ [(worker, launch)] }

/-- Keep the handle of a thread for whoever joins it. -/
def pushHandle (pool : Pool) (worker : UInt32) : Pool :=
  { pool with handles := pool.handles ++ [worker] }

/-- Take all handles. -/
def takeHandles (pool : Pool) : List UInt32 × Pool :=
  (pool.handles, { pool with handles := [] })

/-- Take the workers that were started and did not run yet. -/
def takeStarted (pool : Pool) : List (UInt32 × Wire.Launch) × Pool :=
  (pool.started, { pool with started := [] })

/-- Claim a thread for a worker, number it, and start it: the steps of a spawn in
a row. -/
def spawn (pool : Pool) (limit : Option UInt32) (launch : Wire.Launch) :
    Except Fault (UInt32 × Pool) := do
  let pool ← pool.claim limit
  let (worker, pool) := pool.allocate
  let pool := (pool.setPhase worker .idle).setPhase worker .spawning
  return (worker, (pool.start worker launch).pushHandle worker)

/-- The pool in diagnostics. -/
def describe (pool : Pool) : String :=
  Text.Outline.partialRecord "WorkerPool" [
    ("spawned", toString pool.spawned),
    ("live", toString pool.active)]

/-- The phase recorded last is the phase of a worker. -/
theorem phase?_setPhase (pool : Pool) (worker : UInt32) (phase : Phase) :
    (pool.setPhase worker phase).phase? worker = some phase := by
  simp [phase?, setPhase]

end Pool

end WasmBridge
