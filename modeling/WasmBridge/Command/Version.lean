/-!
# The version of the program
-/

namespace WasmBridge.Command

/-- The version number. -/
def versionNumber : String := "0.1.0"

/-- The name and version of the program on one line. -/
def versionLine : String := s!"kwasm {versionNumber}"

/-- What the program is made of, and the platform it runs on. -/
def versionLines (platform : String) : List String := [
  "kwasm - host bridge for WebAssembly guests",
  "",
  s!"Version:     {versionNumber}",
  s!"Platform:    {platform}",
  "",
  "Components:",
  "  kwasm-core   Errors, host values, object table, wire protocol",
  "  kwasm-host   Wasmtime bridge, router, libraries, workers",
  "  kwasm-cli    Command-line interface"]

end WasmBridge.Command
