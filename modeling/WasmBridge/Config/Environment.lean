import WasmBridge.Config.Basic
import WasmBridge.Decimal.Numeral
import WasmBridge.Text.Blank
import WasmBridge.Text.Lowercase

/-!
# Configuration from the environment

Four variables change the default configuration.  A variable whose value is not
text counts as not set; blanks around a value do not count.
-/

namespace WasmBridge

/-- The variables that are set, and their values. -/
structure Environment where
  entries : List (String × Bytes) := []

/-- The value of a variable, if it is set to a text. -/
def Environment.text? (environment : Environment) (name : String) : Option String :=
  (environment.entries.lookup name).bind Text.Utf8.decode?

namespace Configuration

/-- Read a truth value, in any letter case. -/
def readToggle (text : String) : Except String Bool :=
  let text := Text.lowercase text
  if text ∈ ["1", "true", "yes", "on"] then .ok true
  else if text ∈ ["0", "false", "no", "off"] then .ok false
  else .error s!"expected a boolean, got '{text}'"

/-- Read a word. -/
def readWord (text : String) : Except String UInt32 :=
  (Decimal.readUInt32 text).mapError Decimal.NumeralError.message

/-- The value of a variable read by `read`, or nothing if it is not set. -/
def setting? {α : Type} (environment : Environment) (read : String → Except String α)
    (name : String) : Except Fault (Option α) :=
  match environment.text? name with
  | none => .ok none
  | some text =>
    match read (Text.trim text) with
    | .ok value => .ok (some value)
    | .error cause => .error (.configuration name cause)

/-- The default configuration with the changes the environment asks for. -/
def ofEnvironment (environment : Environment) : Except Fault Configuration := do
  let config : Configuration := {}
  let threads ← setting? environment readToggle "KWASM_THREADS"
  let workers ← setting? environment readWord "KWASM_MAX_WORKERS"
  let initialPages ← setting? environment readWord "KWASM_MEMORY_PAGES"
  let maximumPages ← setting? environment readWord "KWASM_MAX_MEMORY_PAGES"
  let config := { config with
    threads := threads.getD config.threads
    workers := workers.or config.workers
    initialPages := initialPages.getD config.initialPages
    maximumPages := maximumPages.getD config.maximumPages }
  config.validate
  return config

end Configuration

end WasmBridge
