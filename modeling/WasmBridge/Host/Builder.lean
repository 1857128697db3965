import WasmBridge.Context.Basic
import WasmBridge.Library.Objects
import WasmBridge.Wasm.File

/-!
# Building hosts

A host is built from a module and from what was settled before: the
configuration, the libraries it offers, and the global object.  A compiler that
is handed in brings its own configuration and the modules it keeps.
-/

namespace WasmBridge

/-- What a host is built from, its module apart. -/
structure HostBuilder where
  config : Configuration
  /-- The compiler to use; its configuration counts, not the builder's. -/
  compiler : Option Wasm.Compiler := none
  catalog : Catalog := Objects.standardCatalog
  globalObject : ObjectId := 0
  /-- How many threads the machine runs at a time. -/
  machineThreads : UInt32 := 1

namespace HostBuilder

/-- Offer a library under a name. -/
def library (builder : HostBuilder) (name : String) (library : Library) : HostBuilder :=
  { builder with catalog := builder.catalog.insertAs name library }

/-- The compiler that is used. -/
def usedCompiler (builder : HostBuilder) : Except Fault Wasm.Compiler :=
  match builder.compiler with
  | some compiler => .ok compiler
  | none => Wasm.Compiler.new builder.config

/-- Build a host for the bytes of a module, and answer also with the compiler as
it is afterwards. -/
def build (builder : HostBuilder) (name : String) (bytes : Bytes) :
    Except Fault (Host × Wasm.Compiler) := do
  let compiler ← builder.usedCompiler
  let (compiled, compiler) ← compiler.compile name bytes
  let plan ← MemoryPlan.forModule compiler.config compiled.module
  let host : Host := {
    config := compiler.config
    compiled
    catalog := builder.catalog
    globalObject := builder.globalObject
    plan
    machineThreads := builder.machineThreads }
  return (host, compiler)

/-- Build a host for a module file. -/
def load (builder : HostBuilder) (file : ModuleFile) : Except Fault (Host × Wasm.Compiler) := do
  let bytes ← file.read
  builder.build file.moduleName bytes

/-- The builder in diagnostics. -/
def describe (builder : HostBuilder) : String :=
  Text.Outline.partialRecord "HostBuilder" [
    ("config", builder.config.describe),
    ("catalog", builder.catalog.describe)]

end HostBuilder

/-- The event that tells of a host that was built. -/
def Host.readyEvent (host : Host) : Log.Event :=
  .hostReady host.compiled.name host.plan.isShared (Fields.names host.catalog).length

end WasmBridge
