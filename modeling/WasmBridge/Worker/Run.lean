import WasmBridge.Context.Startup

/-!
# Running workers

A worker is a fresh context on a thread of its own.  Whatever happens while it
starts and runs ends that worker alone: it is recorded and reported, and the
thread is given back.
-/

namespace WasmBridge.Host

/-- Change the pool of workers. -/
def changePool (change : Pool → Pool) : Activity Unit :=
  Activity.changeShared fun shared => ((), { shared with pool := change shared.pool })

/-- What the context of a worker does from its first to its last step. -/
def work (host : Host) (worker : UInt32) (launch : Wire.Launch) : Activity Unit := do
  changePool (·.setPhase worker .bootstrapping)
  match ← (host.bootstrap host.entry launch).run with
  | .ok () =>
    changePool (·.setPhase worker .finished)
    Activity.report (.workerFinished worker)
  | .error fault =>
    changePool (·.setPhase worker .failed)
    Activity.report (.workerFailed worker fault)
  Activity.report (.contextClosed worker .worker)
  changePool Pool.giveBack

/-- The thread of a worker that did not run yet. -/
def workerThread (host : Host) (shared : Shared) (worker : UInt32) (launch : Wire.Launch) :
    Thread Shared Unit :=
  .waiting shared (fun _ => true) fun shared =>
    ((host.work worker launch).run (Context.new host worker) shared).andThen fun _ =>
      Action.pure ()

/-- What a main context does until its guest may begin. -/
def openMain (host : Host) : Attempt Unit := ExceptT.mk do
  let result ← (host.startMain host.entry).run
  Activity.report (.contextClosed mainContext .main)
  return result

end WasmBridge.Host
