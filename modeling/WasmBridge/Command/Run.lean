import WasmBridge.Command.Arguments
import WasmBridge.Command.Outcome
import WasmBridge.Config.Environment
import WasmBridge.Host.Builder
import WasmBridge.Json.Parser
import WasmBridge.Session

/-!
# Running a guest

The environment and the options settle the configuration, and the globals become
properties of the global object.  The guest runs, and whatever becomes of it, its
workers are waited for.
-/

namespace WasmBridge.Command

/-- What became of a run, and what was reported meanwhile, by the context that
reported it. -/
structure RunReport where
  result : Except Failure Unit
  log : List (UInt32 × Log.Event) := []

/-- The configuration with the options that are set. -/
def RunOptions.configure (options : RunOptions) (config : Configuration) : Configuration :=
  { config with
    threads := config.threads && !options.noThreads
    workers := options.workers.or config.workers
    tlsSize := options.tlsSize.or config.tlsSize }

/-- The name and the value of a global property.  A value that is not JSON is a
string. -/
def readGlobal (heap : Heap) (text : String) : Except Failure (String × HostValue × Heap) :=
  match splitAtEquals text.toList with
  | (_, none) => .error (.globalWithoutValue text)
  | (name, some written) =>
    if name = "" then .error (.globalWithoutName text)
    else match Json.parse? written with
      | some json => let (value, heap) := heap.ofJson json; .ok (name, value, heap)
      | none => .ok (name, .string written, heap)

/-- Set global properties of an object. -/
def setGlobals (object : ObjectId) : Heap → List String → Except Failure Heap
  | heap, [] => .ok heap
  | heap, text :: rest => do
    let (name, value, heap) ← readGlobal heap text
    setGlobals object (heap.set object name value) rest

/-- The host builder and the heap that the environment and the options ask for. -/
def prepare (environment : Environment) (options : RunOptions) (machineThreads : UInt32) :
    Except Failure (HostBuilder × Heap) := do
  let config ← (Configuration.ofEnvironment environment).mapError .environment
  let (globalObject, heap) := ({} : Heap).allocate
  let heap ← setGlobals globalObject heap options.globals
  return ({ config := options.configure config, globalObject, machineThreads }, heap)

/-- Run the guest of a host, wait for its workers, and report.  There is no report if the guest
or one of the workers never ends. -/
def runHost? (host : Host) (heap : Heap) : Option RunReport := do
  let (result, session) ← (Session.new host heap #[]).run?
  let (joined, session) ← session.join?
  let events := session.shared.log.toList
  match result with
  | .ok () => return ⟨.ok (), events ++ [(mainContext, .guestFinished joined)]⟩
  | .error fault => return ⟨.error (.guest fault), events⟩

/-- Run the guest of a module file. -/
def runFile? (file : ModuleFile) (builder : HostBuilder) (heap : Heap) : Option RunReport :=
  let path := file.path.display
  let loading := (mainContext, Log.Event.loadingGuest path)
  match builder.load file with
  | .error fault => some ⟨.error (.load path fault), [loading]⟩
  | .ok (host, _) => do
    let report ← runHost? host heap
    return { report with log := loading :: (mainContext, host.readyEvent) :: report.log }

/-- The command that runs a guest.  There is no report if the guest or one of its workers never
ends. -/
def run? (file : ModuleFile) (environment : Environment) (options : RunOptions)
    (machineThreads : UInt32) : Option RunReport :=
  if ¬ file.content.isPresent then some ⟨.error (.moduleNotFound file.path.display), []⟩
  else match prepare environment options machineThreads with
    | .error failure => some ⟨.error failure, []⟩
    | .ok (builder, heap) => runFile? file builder heap

instance : Nonempty RunReport := ⟨.ok (), []⟩

/-- Carry out the command that runs a guest, and wait for its report. -/
def run (file : ModuleFile) (environment : Environment) (options : RunOptions)
    (machineThreads : UInt32) : RunReport :=
  (run? file environment options machineThreads).awaited

end WasmBridge.Command
