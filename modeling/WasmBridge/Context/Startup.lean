import WasmBridge.Context.Instance

/-!
# Starting contexts

A main context is instantiated, bound to its memory, and given its local storage;
then its guest can begin.  A worker goes through a fixed sequence of steps that
depends only on what the module exports and on the launch record: stack pointer,
local storage, entry.  A guest may take the whole sequence upon itself.
-/

namespace WasmBridge

/-- A step in the start of a worker. -/
inductive StartStep where
  /-- Call an export with words. -/
  | call (name : String) (args : List UInt32)
  /-- Set an exported global to a word. -/
  | setGlobal (name : String) (type : Wasm.ValueType) (word : UInt32)
  /-- Report that the guest keeps its stack pointer. -/
  | keepStackPointer (stackPointer : UInt32)
  /-- Record that the guest is about to run. -/
  | enterRunning
  /-- End, because an export is missing. -/
  | missing (name : String)
deriving DecidableEq

namespace StartStep

/-- How the stack pointer is set. -/
def stackPointer (module : Wasm.Module) (stackPointer : UInt32) : StartStep :=
  if module.exportsFunction Wasm.Abi.setStackPointer Wasm.Abi.wordType then
    .call Wasm.Abi.setStackPointer [stackPointer]
  else match module.exportedGlobal? Wasm.Abi.stackPointer with
    | some ⟨type, true⟩ => .setGlobal Wasm.Abi.stackPointer type stackPointer
    | _ => .keepStackPointer stackPointer

/-- How the local storage is prepared. -/
def localStorage (module : Wasm.Module) (block : UInt32) : List StartStep :=
  if module.exportsFunction Wasm.Abi.initTls Wasm.Abi.wordType then
    [.call Wasm.Abi.initTls [block]]
  else []

/-- How the guest is entered. -/
def entry (module : Wasm.Module) (value : UInt32) : List StartStep :=
  if module.exportsFunction Wasm.Abi.workerEntry Wasm.Abi.wordType then
    [.enterRunning, .call Wasm.Abi.workerEntry [value]]
  else [.missing Wasm.Abi.workerEntry]

/-- The start of a worker. -/
def sequence (module : Wasm.Module) (launch : Wire.Launch) : List StartStep :=
  if module.exportsFunction Wasm.Abi.threadStart Wasm.Abi.threadStartType then
    [.enterRunning,
      .call Wasm.Abi.threadStart [launch.stackPointer, launch.tlsPointer, launch.entry]]
  else
    stackPointer module launch.stackPointer
      :: localStorage module launch.tlsPointer ++ entry module launch.entry

end StartStep

namespace Host

/-- Carry out a step in the start of the worker that the context is for. -/
def startStep (again : Reentry) : StartStep → Attempt Unit
  | .call name args => do
    let _ ← again.enter name (args.map .word)
    return ()
  | .setGlobal name type word =>
    if type = .i32 then
      (modify fun context => context.setGlobal (.exported name) (.word word) : Activity Unit)
    else throw (.guestTrap name "global is not of type i32")
  | .keepStackPointer stackPointer => (Activity.report (.stackPointerKept stackPointer) :)
  | .enterRunning => do
    let id := (← (get : Activity Context)).id
    (Activity.changeShared fun shared =>
      ((), { shared with pool := shared.pool.setPhase id .running }) : Activity Unit)
  | .missing name => throw (.missingExport name)

/-- Carry out steps up to the first that fails. -/
def startSteps (again : Reentry) : List StartStep → Attempt Unit
  | [] => return ()
  | step :: rest => do
    startStep again step
    startSteps again rest

/-- Instantiate the module for a worker and start it. -/
def bootstrap (host : Host) (again : Reentry) (launch : Wire.Launch) : Attempt Unit := do
  host.instantiate again true
  match host.plan, host.bridge? with
  | .exported, _ => throw (.threadsUnavailable "no shared memory to attach")
  | _, none => throw (.threadsUnavailable "no shared memory to attach")
  | _, some bridge =>
    (bindBridge bridge : Activity Unit)
    startSteps again (StartStep.sequence host.module launch)

/-- Find room for the local storage of the main thread and prepare it, if the guest
can do both. -/
def initMainStorage (host : Host) (again : Reentry) : Attempt Unit := do
  if host.module.exportsFunction Wasm.Abi.allocTls Wasm.Abi.allocTlsType &&
      host.module.exportsFunction Wasm.Abi.initTls Wasm.Abi.wordType then
    let block ← again.enterWithWords Wasm.Abi.allocTls []
    let _ ← again.enter Wasm.Abi.initTls [.word block]
    return ()
  else return ()

/-- Make the context a main context. -/
def startMain (host : Host) (again : Reentry) : Attempt Unit := do
  host.instantiate again host.config.stubImports
  match host.bridge? with
  | some bridge => (bindBridge bridge : Activity Unit)
  | none => (Activity.report .noLinearMemory : Activity Unit)
  host.initMainStorage again

/-- The function with which the guest begins, and its type. -/
def mainEntry? (host : Host) : Option (String × Wasm.FunctionType) :=
  Wasm.Abi.mainEntries.findSome? fun name =>
    (host.module.exportedFunction? name).map (name, ·)

/-- The arguments of the function with which the guest begins: zeros.  A reference
cannot be made up. -/
def mainArguments (name : String) : List Wasm.ValueType → Except Fault (List Wasm.Value)
  | [] => .ok []
  | type :: rest =>
    match Wasm.Value.default? type with
    | some value => (mainArguments name rest).map (value :: ·)
    | none => .error (.guestTrap name s!"entry point takes a {type.describe} parameter")

/-- Let the guest of a main context begin. -/
def callMain (host : Host) (again : Reentry) : Attempt Unit := do
  match host.mainEntry? with
  | none => throw (.missingExport (" or ".intercalate Wasm.Abi.mainEntries))
  | some (name, type) =>
    let args ← ExceptT.mk (pure (mainArguments name type.parameters))
    let _ ← again.enter name args
    return ()

/-- Make the context a main context and let its guest begin. -/
def runMain (host : Host) (again : Reentry) : Attempt Unit := do
  host.startMain again
  host.callMain again

/-- Call an export of exactly this type with words. -/
def callExport (host : Host) (again : Reentry) (name : String) (args : List UInt32)
    (results : List Wasm.ValueType) : Attempt (List Wasm.Value) := do
  if host.module.exportsFunction name ⟨args.map fun _ => .i32, results⟩ then
    again.enter name (args.map .word)
  else throw (.missingExport name)

/-- Call an export that takes words and answers with one. -/
def callForWord (host : Host) (again : Reentry) (name : String) (args : List UInt32) :
    Attempt UInt32 := do
  let results ← host.callExport again name args [.i32]
  return (results.headD (.word 0)).toWord

end Host

end WasmBridge
