import WasmBridge.Config.Environment

/-!
# Log settings

How events are written and which of them: from the command line's count of
verbosity flags, changed by the variables of the environment.
-/

namespace WasmBridge.Log

/-- The layout of written events. -/
inductive Format where
  | json
  | pretty
  | compact
deriving DecidableEq

namespace Format

/-- The name of a format. -/
def name : Format → String
  | json => "Json"
  | pretty => "Pretty"
  | compact => "Compact"

/-- The format of a text in any letter case, the compact one for any other text. -/
def ofText (text : String) : Format :=
  match Text.lowercase text with
  | "json" => json
  | "pretty" => pretty
  | _ => compact

end Format

/-- How events are written. -/
structure Settings where
  format : Format := .compact
  /-- Which events are written. -/
  filter : String := "info"
  /-- Whether events name their place in the program. -/
  location : Bool := false
  /-- Whether events name their thread. -/
  threadNames : Bool := true
  /-- Whether events number their thread. -/
  threadIds : Bool := false
deriving DecidableEq

namespace Settings

/-- The level of so many verbosity flags. -/
def verbosityLevel : Nat → String
  | 0 => "warn"
  | 1 => "info"
  | 2 => "debug"
  | _ => "trace"

/-- The settings of so many verbosity flags.  What guests say is written at any
verbosity. -/
def ofVerbosity (count : Nat) : Settings :=
  { filter := verbosityLevel count ++ ",kwasm::guest=info" }

/-- The truth value of a variable: whether it is `1`, or `true` in any letter
case of ASCII. -/
def flag? (environment : Environment) (name : String) : Option Bool :=
  (environment.text? name).map fun text =>
    String.ofList (text.toList.map Char.toLower) == "true" || text == "1"

/-- Settings with the changes the environment asks for.  `terminal` says whether
the output is read by a person. -/
def applyEnvironment (settings : Settings) (environment : Environment) (terminal : Bool) :
    Settings :=
  { format := match environment.text? "KWASM_LOG_FORMAT" with
      | some text => .ofText text
      | none => if terminal then .pretty else settings.format
    filter :=
      ((environment.text? "KWASM_LOG_LEVEL").or (environment.text? "RUST_LOG")).getD
        settings.filter
    location := (flag? environment "KWASM_LOG_LOCATION").getD settings.location
    threadNames := (flag? environment "KWASM_LOG_THREAD_NAMES").getD settings.threadNames
    threadIds := (flag? environment "KWASM_LOG_THREAD_IDS").getD settings.threadIds }

end Settings

/-- Why events cannot be sent anywhere else once they are sent somewhere. -/
def alreadyInstalled : String := "Failed to initialize tracing subscriber"

end WasmBridge.Log
