/-!
# Help

What the program tells about itself and about each of its commands.  Options and
operands are listed in two columns, what they are for in the second.
-/

namespace WasmBridge.Command

/-- What help is about. -/
inductive Topic where
  | program
  | run
  | inspect
  | version
  | help
deriving DecidableEq

namespace Topic

/-- The names of the commands, each a topic. -/
def commands : List (String × Topic) :=
  [("run", run), ("inspect", inspect), ("version", version), ("help", help)]

/-- What a topic is for. -/
def purpose : Topic → String
  | program => "Command-line runner for kwasm guest modules"
  | run => "Run a guest module's entry point and wait for its workers"
  | inspect => "Show a module's imports, exports and bridge capabilities"
  | version => "Show version information"
  | help => "Print this message or the help of the given subcommand(s)"

/-- How a topic is used. -/
def usage : Topic → String
  | program => "kwasm [OPTIONS] <COMMAND>"
  | run => "kwasm run [OPTIONS] <MODULE>"
  | inspect => "kwasm inspect [OPTIONS] <MODULE>"
  | version => "kwasm version"
  | help => "kwasm help [COMMAND]..."

/-- The operand that is the path of a module. -/
def moduleOperand : List (String × String) :=
  [("<MODULE>", "Path to the .wasm module")]

/-- The operands of a topic. -/
def operands : Topic → List (String × String)
  | run | inspect => moduleOperand
  | help => [("[COMMAND]...", "Print help for the subcommand(s)")]
  | program | version => []

/-- The options of a topic. -/
def options : Topic → List (String × String)
  | program => [
    ("-v, --verbose...", "Increase verbosity (-v, -vv, -vvv)"),
    ("-h, --help", "Print help"),
    ("-V, --version", "Print version")]
  | run => [
    ("    --max-workers <MAX_WORKERS>", "Maximum number of concurrently running workers"),
    ("    --no-threads", "Disable worker threads"),
    ("    --tls-size <TLS_SIZE>", "TLS block size reported to the guest"),
    ("-g, --global <NAME=JSON>", "Global property as NAME=JSON (repeatable)"),
    ("-h, --help", "Print help")]
  | inspect => [
    ("    --json", "Print the report as JSON"),
    ("-h, --help", "Print help")]
  | version => [("-h, --help", "Print help")]
  | help => []

/-- A listing: its title and two columns; nothing if there are no rows. -/
def listing (title : String) (rows : List (String × String)) : List String :=
  let width := (rows.map fun row => row.1.length).foldl max 0
  if rows.isEmpty then []
  else "" :: title :: rows.map fun (left, right) =>
    "  " ++ left ++ String.ofList (List.replicate (width + 2 - left.length) ' ') ++ right

/-- Help about a topic. -/
def lines (topic : Topic) : List String :=
  [topic.purpose, "", "Usage: " ++ topic.usage]
    ++ (if topic = program then
        listing "Commands:" (commands.map fun (name, topic) => (name, topic.purpose))
      else [])
    ++ listing "Arguments:" topic.operands
    ++ listing "Options:" topic.options

end Topic

end WasmBridge.Command
