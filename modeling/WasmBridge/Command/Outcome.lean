import WasmBridge.Fault

/-!
# Outcomes of commands

A command that fails says what it was about and what caused it, from the outside
in.
-/

namespace WasmBridge.Command

/-- Why a command failed. -/
inductive Failure where
  /-- There is nothing under the path of the module. -/
  | moduleNotFound (path : String)
  /-- The environment asks for a configuration that cannot be. -/
  | environment (cause : Fault)
  /-- A global property is given without an equality sign. -/
  | globalWithoutValue (text : String)
  /-- A global property is given without a name. -/
  | globalWithoutName (text : String)
  /-- No host could be built for the module. -/
  | load (path : String) (cause : Fault)
  /-- The file could not be read. -/
  | read (path cause : String)
  /-- The guest or its host failed. -/
  | guest (cause : Fault)
deriving DecidableEq

namespace Failure

/-- What happened and what caused it, from the outside in. -/
def chain : Failure → List String
  | moduleNotFound path => [s!"Module not found: {path}"]
  | environment cause => ["Invalid KWASM_* environment", cause.text]
  | globalWithoutValue text => [s!"Expected NAME=JSON, got '{text}'"]
  | globalWithoutName text => [s!"Global name is empty in '{text}'"]
  | load path cause => [s!"Failed to load {path}", cause.text]
  | read path cause => [s!"Failed to read {path}", cause]
  | guest cause => [cause.text]

/-- A text with every line but the first indented to a depth. -/
def indented (text : String) : String :=
  "\n    ".intercalate (text.splitOn "\n")

/-- The failure as the program reports it. -/
def report (failure : Failure) : String :=
  match failure.chain with
  | [] => "Error"
  | [outer] => s!"Error: {outer}"
  | outer :: causes =>
    s!"Error: {outer}\n\nCaused by:\n" ++
      "\n".intercalate (causes.map fun cause => "    " ++ indented cause)

end Failure

end WasmBridge.Command
