import WasmBridge.Command.Inspect
import WasmBridge.Command.Run
import WasmBridge.Command.Version
import WasmBridge.Log.Filter
import WasmBridge.Log.Settings

/-!
# Executing the program

The arguments are read, the command is carried out, and its outcome is what the
program prints, what it complains about, what it logs, and its exit code.
-/

namespace WasmBridge.Command

/-- Where the program runs. -/
structure Surroundings where
  environment : Environment := {}
  /-- What is found under a path. -/
  files : Path → FileContent
  /-- Whether the output is read by a person. -/
  terminal : Bool := false
  platform : String := ""
  /-- How many threads the machine runs at a time. -/
  machineThreads : UInt32 := 1

/-- How the program ends. -/
inductive Ending where
  | success
  | failure (failure : Failure)
  /-- The arguments make no sense. -/
  | usage

/-- What the program leaves behind. -/
structure Outcome where
  ending : Ending := .success
  printed : List String := []
  /-- The events that pass the filter, by the context that reported them. -/
  log : List (UInt32 × Log.Event) := []

namespace Surroundings

/-- The file under a path. -/
def file (surroundings : Surroundings) (path : Path) : ModuleFile :=
  ⟨path, surroundings.files path⟩

/-- How events are written for so many verbosity flags. -/
def settings (surroundings : Surroundings) (verbosity : Nat) : Log.Settings :=
  (Log.Settings.ofVerbosity verbosity).applyEnvironment surroundings.environment
    surroundings.terminal

end Surroundings

namespace Ending

/-- The exit code of the program. -/
def exitCode : Ending → UInt8
  | success => 0
  | failure _ => 1
  | usage => 2

/-- What the program complains about. -/
def complaint : Ending → Option String
  | success => none
  | failure cause => some cause.report
  | usage => some ("\n".intercalate Topic.program.lines)

/-- How a command ends. -/
def ofResult {α : Type} : Except Failure α → Ending
  | .ok _ => success
  | .error cause => failure cause

end Ending

namespace Outcome

/-- The outcome when there is no task. -/
def ofStop : Stop → Outcome
  | .usage => { ending := .usage }
  | .version => { printed := [versionLine] }
  | .help topic => { printed := topic.lines }

/-- The outcome of an inspection. -/
def ofInspection (lines : Except Failure (List String)) : Outcome :=
  { ending := .ofResult lines, printed := lines.toOption.getD [] }

/-- The outcome of a run. -/
def ofRun (filter : Log.Filter) (report : RunReport) : Outcome :=
  { ending := .ofResult report.result
    log := filter.select report.log }

end Outcome

/-- Carry out a task. -/
def perform (surroundings : Surroundings) (invocation : Invocation) : Outcome :=
  match invocation.task with
  | .version => { printed := versionLines surroundings.platform }
  | .inspect path json => .ofInspection (inspect (surroundings.file path) json)
  | .run path options =>
    .ofRun (.read (surroundings.settings invocation.verbosity).filter)
      (run (surroundings.file path) surroundings.environment options
        surroundings.machineThreads)

/-- Execute the program with these arguments. -/
def execute (surroundings : Surroundings) (arguments : List String) : Outcome :=
  match Invocation.ofArguments arguments with
  | .ok invocation => perform surroundings invocation
  | .error stop => .ofStop stop

/-- The path of a task's module. -/
def Task.path? : Task → Option Path
  | run path _ | inspect path _ => some path
  | version => none

end WasmBridge.Command
