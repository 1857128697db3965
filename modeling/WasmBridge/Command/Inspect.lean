import WasmBridge.Command.Outcome
import WasmBridge.Json.Printer
import WasmBridge.Wasm.File
import WasmBridge.Wasm.Report

/-!
# Inspecting a module
-/

namespace WasmBridge.Command

/-- The configuration that modules are inspected under. -/
def inspectConfig : Configuration := { keepModules := false }

/-- The report on a module file. -/
def inspectReport (file : ModuleFile) : Except Failure Wasm.Report := do
  let bytes ← file.content.read.mapError (.read file.path.display)
  let compiler ← (Wasm.Compiler.new inspectConfig).mapError .guest
  let (compiled, _) ← (compiler.compile (file.path.moduleName "module") bytes).mapError .guest
  return compiled.report

/-- The lines that a report is printed as. -/
def reportLines (json : Bool) (report : Wasm.Report) : List String :=
  if json then report.toJson.pretty.splitOn "\n" else report.lines

/-- Inspect a module file: the lines that are printed. -/
def inspect (file : ModuleFile) (json : Bool) : Except Failure (List String) :=
  (inspectReport file).map (reportLines json)

end WasmBridge.Command
