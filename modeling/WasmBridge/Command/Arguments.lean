import WasmBridge.Text.Utf8
import WasmBridge.Command.Help
import WasmBridge.Decimal.Numeral
import WasmBridge.Wasm.Path

/-!
# Arguments of the program

An argument is an option, whose value may be attached to it or follow it, or an
operand.  The first operand names a command, and everything after it belongs to
that command.  After two dashes every argument is an operand.
-/

namespace WasmBridge.Command

/-- Options of a command that runs a guest. -/
structure RunOptions where
  /-- The greatest number of workers at a time. -/
  workers : Option UInt32 := none
  /-- No worker may be started. -/
  noThreads : Bool := false
  /-- The size of a thread's local storage. -/
  tlsSize : Option UInt32 := none
  /-- Properties of the global object, each as a name, an equality sign, and JSON. -/
  globals : List String := []
deriving DecidableEq

/-- What the program is asked to do. -/
inductive Task where
  | run (path : Path) (options : RunOptions)
  | inspect (path : Path) (json : Bool)
  | version
deriving DecidableEq

/-- A task and how many verbosity flags there were. -/
structure Invocation where
  verbosity : Nat
  task : Task
deriving DecidableEq

/-- Why there is no task. -/
inductive Stop where
  /-- The arguments make no sense. -/
  | usage
  /-- The version number was asked for. -/
  | version
  /-- Help was asked for. -/
  | help (topic : Topic)
deriving DecidableEq

/-- The form of an argument. -/
inductive Argument where
  /-- Two dashes. -/
  | separator
  /-- An option spelled out, perhaps with a value after an equality sign. -/
  | long (name : String) (value : Option String)
  /-- One or more one-letter options, perhaps with a value attached to the last. -/
  | short (letters : List Char)
  | operand (text : String)
deriving DecidableEq

/-- The name and the attached value of an option that is spelled out. -/
def splitAtEquals (chars : List Char) : String × Option String :=
  match chars.dropWhile (· != '=') with
  | [] => (String.ofList chars, none)
  | _ :: value => (String.ofList (chars.takeWhile (· != '=')), some (String.ofList value))

/-- The form of an argument. -/
def Argument.ofText (text : String) : Argument :=
  match text.toList with
  | ['-', '-'] => separator
  | '-' :: '-' :: chars => let (name, value) := splitAtEquals chars; long name value
  | ['-'] => operand text
  | '-' :: letters => short letters
  | _ => operand text

/-- What goes with an option. -/
inductive ValueForm where
  | nothing
  | word
  | text
deriving DecidableEq

/-- An option of a command. -/
structure OptionForm where
  name : String
  letter : Option Char := none
  value : ValueForm := .nothing
  /-- Whether the option may be repeated. -/
  repeats : Bool := false

/-- The arguments that a command takes. -/
structure Form where
  topic : Topic
  options : List OptionForm := []
  hasOperand : Bool := false

/-- The arguments of the command that runs a guest. -/
def runForm : Form where
  topic := .run
  options := [
    { name := "max-workers", value := .word },
    { name := "no-threads" },
    { name := "tls-size", value := .word },
    { name := "global", letter := some 'g', value := .text, repeats := true }]
  hasOperand := true

/-- The arguments of the command that inspects a module. -/
def inspectForm : Form where
  topic := .inspect
  options := [{ name := "json" }]
  hasOperand := true

/-- What was found among the arguments of a command. -/
inductive Finding where
  /-- An option and its value; the value of a flag is empty. -/
  | option (name value : String)
  | operand (text : String)
deriving DecidableEq

/-- What the first argument of several comes to.  An option with a value that is
not attached also takes the argument after it. -/
inductive Reading where
  | found (finding : Finding)
  /-- The value of this option follows. -/
  | awaits (name : String)
  | separator
  | stop (stop : Stop)

/-- Read an option that is spelled out. -/
def readLong (form : Form) (name : String) (value : Option String) : Reading :=
  match form.options.find? (·.name == name), value with
  | some option, some value =>
    if option.value = .nothing then .stop .usage else .found (.option name value)
  | some option, none =>
    if option.value = .nothing then .found (.option name "") else .awaits name
  | none, none => if name = "help" then .stop (.help form.topic) else .stop .usage
  | none, some _ => .stop .usage

/-- Read one-letter options.  Those of a command have values, so the first letter
decides. -/
def readShort (form : Form) : List Char → Reading
  | [] => .stop .usage
  | letter :: rest =>
    match form.options.find? (·.letter == some letter), rest with
    | some option, [] => .awaits option.name
    | some option, '=' :: value => .found (.option option.name (String.ofList value))
    | some option, value => .found (.option option.name (String.ofList value))
    | none, _ => if letter = 'h' then .stop (.help form.topic) else .stop .usage

/-- Read one argument of a command. -/
def readArgument (form : Form) (text : String) : Reading :=
  match Argument.ofText text with
  | .separator => .separator
  | .long name value => readLong form name value
  | .short letters => readShort form letters
  | .operand text => .found (.operand text)

/-- Read a word with an optional sign; the only negative one is zero. -/
def readWord? (text : String) : Option UInt32 :=
  match text.toList with
  | '-' :: digits =>
    match Decimal.readDigits32 0 digits with
    | .ok 0 => if digits.isEmpty then none else some 0
    | _ => none
  | _ => (Decimal.readUInt32 text).toOption

/-- The values of an option, in order. -/
def valuesOf (name : String) (found : List Finding) : List String :=
  found.filterMap fun finding => match finding with
    | .option other value => if other = name then some value else none
    | .operand _ => none

/-- The operands, in order. -/
def operandsOf (found : List Finding) : List String :=
  found.filterMap fun finding => match finding with
    | .option .. => none
    | .operand text => some text

/-- Whether a finding may follow those found before: an option with a value of its
form, which is not repeated against its form, or a first operand, which is not
empty. -/
def accepts (form : Form) (found : List Finding) : Finding → Bool
  | .option name value =>
    form.options.any fun option =>
      option.name == name && (option.repeats || (valuesOf name found).isEmpty) &&
        (option.value ≠ .word || (readWord? value).isSome)
  | .operand text => form.hasOperand && text != "" && (operandsOf found).isEmpty

/-- Add a finding to those found before. -/
def addFinding (form : Form) (found : List Finding) (finding : Finding) :
    Except Stop (List Finding) :=
  if accepts form found finding then .ok (found ++ [finding]) else .error .usage

/-- Add operands to what was found. -/
def addOperands (form : Form) (found : List Finding) (texts : List String) :
    Except Stop (List Finding) :=
  texts.foldlM (fun found text => addFinding form found (.operand text)) found

/-- The text that may be the value of the option before it: anything but an
option. -/
def asValue? (text : String) : Option String :=
  match Argument.ofText text with
  | .operand text => some text
  | _ => none

/-- Read the arguments of a command. -/
def readArguments (form : Form) (found : List Finding) :
    List String → Except Stop (List Finding)
  | [] => .ok found
  | text :: rest =>
    match readArgument form text with
    | .stop stop => .error stop
    | .separator => addOperands form found rest
    | .found finding => do readArguments form (← addFinding form found finding) rest
    | .awaits name =>
      match rest with
      | [] => .error .usage
      | value :: rest =>
        match asValue? value with
        | some value => do
          readArguments form (← addFinding form found (.option name value)) rest
        | none => .error .usage

/-- The operand that must be there. -/
def operandOf (found : List Finding) : Except Stop String :=
  match operandsOf found with
  | text :: _ => .ok text
  | [] => .error .usage

/-- The word that an option is set to, if it is set. -/
def wordOf (name : String) (found : List Finding) : Option UInt32 :=
  (valuesOf name found).head?.bind readWord?

/-- Whether a flag is set. -/
def isSet (name : String) (found : List Finding) : Bool :=
  !(valuesOf name found).isEmpty

/-- Read the arguments of the command that runs a guest. -/
def readRun (texts : List String) : Except Stop Task := do
  let found ← readArguments runForm [] texts
  let path ← operandOf found
  return .run (Text.Utf8.encode path) {
    workers := wordOf "max-workers" found
    noThreads := isSet "no-threads" found
    tlsSize := wordOf "tls-size" found
    globals := valuesOf "global" found }

/-- Read the arguments of the command that inspects a module. -/
def readInspect (texts : List String) : Except Stop Task := do
  let found ← readArguments inspectForm [] texts
  let path ← operandOf found
  return .inspect (Text.Utf8.encode path) (isSet "json" found)

/-- Read the arguments of the command that tells the version, which takes none. -/
def readVersion (texts : List String) : Except Stop Task := do
  let _ ← readArguments { topic := .version } [] texts
  return .version

/-- What comes of asking for help, with the arguments of the command that gives it:
at most the name of another command. -/
def readHelp : List String → Stop
  | [] => .help .program
  | [name] => ((Topic.commands.lookup name).map Stop.help).getD .usage
  | _ => .usage

/-- Read a command and its arguments. -/
def readTask (name : String) (texts : List String) : Except Stop Task :=
  match name with
  | "run" => readRun texts
  | "inspect" => readInspect texts
  | "version" => readVersion texts
  | "help" => .error (readHelp texts)
  | _ => .error .usage

/-- Read one-letter options before the command: how many verbosity flags there
are. -/
def readFlags (verbosity : Nat) : List Char → Except Stop Nat
  | [] => .ok verbosity
  | 'v' :: rest => readFlags (verbosity + 1) rest
  | 'V' :: _ => .error .version
  | 'h' :: _ => .error (.help .program)
  | _ :: _ => .error .usage

/-- Read the arguments of the program after so many verbosity flags. -/
def readFrom (verbosity : Nat) : List String → Except Stop Invocation
  | [] => .error .usage
  | text :: rest =>
    match Argument.ofText text with
    | .long "verbose" none => readFrom (verbosity + 1) rest
    | .long "version" none => .error .version
    | .long "help" none => .error (.help .program)
    | .long _ _ | .separator => .error .usage
    | .short letters => do readFrom (← readFlags verbosity letters) rest
    | .operand name => (readTask name rest).map (⟨verbosity, ·⟩)

/-- Read the arguments of the program. -/
def Invocation.ofArguments (texts : List String) : Except Stop Invocation :=
  readFrom 0 texts

/-- After two dashes an operand may look like an option. -/
theorem readArguments_separator (form : Form) (found : List Finding) (texts : List String) :
    readArguments form found ("--" :: texts) = addOperands form found texts := by
  rw [readArguments]
  rfl

end WasmBridge.Command
