import WasmBridge.Command.Execution
import WasmBridge.Log.Line

/-!
# The program

Looks at the environment and at the file that the arguments name, executes the
command, and writes its outcome.
-/

open WasmBridge

/-- The variables that the program looks at. -/
def watchedVariables : List String := [
  "KWASM_THREADS", "KWASM_MAX_WORKERS", "KWASM_MEMORY_PAGES", "KWASM_MAX_MEMORY_PAGES",
  "KWASM_LOG_FORMAT", "KWASM_LOG_LEVEL", "KWASM_LOG_LOCATION", "KWASM_LOG_THREAD_NAMES",
  "KWASM_LOG_THREAD_IDS", "RUST_LOG"]

/-- The variables that are set. -/
def readVariables : IO Environment := do
  let mut entries := []
  for name in watchedVariables do
    if let some text ← IO.getEnv name then
      entries := (name, Text.Utf8.encode text) :: entries
  return ⟨entries⟩

/-- The system's wording of a failed access. -/
def causeOf : IO.Error → String
  | .noFileOrDirectory .. => "No such file or directory (os error 2)"
  | .permissionDenied .. => "Permission denied (os error 13)"
  | .inappropriateType .. => "Is a directory (os error 21)"
  | error => toString error

/-- What is found under a path. -/
def contentOf (path : String) : IO FileContent := do
  try
    let bytes ← IO.FS.readBinFile path
    return .bytes bytes.toList
  catch error =>
    match error with
    | .noFileOrDirectory .. => return .absent (causeOf error)
    | error => return .unreadable (causeOf error)

/-- What is found under the path that the arguments name. -/
def contentFor (arguments : List String) : IO FileContent := do
  match (Command.Invocation.ofArguments arguments).toOption.bind (·.task.path?) with
  | some path => contentOf path.display
  | none => return .absent ""

/-- The verbosity that the arguments ask for. -/
def verbosityOf (arguments : List String) : Nat :=
  ((Command.Invocation.ofArguments arguments).toOption.map (·.verbosity)).getD 0

def main (arguments : List String) : IO UInt32 := do
  let environment ← readVariables
  let content ← contentFor arguments
  let surroundings : Command.Surroundings := {
    environment
    files := fun _ => content
    terminal := ← (← IO.getStdout).isTty
    platform := "linux / x86_64" }
  let outcome := Command.execute surroundings arguments
  let settings := surroundings.settings (verbosityOf arguments)
  for (context, event) in outcome.log do
    IO.println (event.line settings context)
  for line in outcome.printed do
    IO.println line
  if let some complaint := outcome.ending.complaint then
    IO.eprintln complaint
  return outcome.ending.exitCode.toUInt32
