import WasmBridge.Config.Basic
import WasmBridge.Wasm.File
import WasmBridge.Wasm.Source

/-!
# Compiling modules

A compiler turns module files into modules and, if it is told so, keeps them by
the digest of their bytes.  What is kept has no name: every use names its module
anew.  A file that is not valid is never kept.  How files are digested and how the
module of a file comes about is up to an engine.
-/

namespace WasmBridge.Wasm

/-- A digest of bytes. -/
def digest (bytes : Bytes) : UInt64 :=
  bytes.foldl (fun sum byte => (sum ^^^ byte.toUInt64) * 0x100000001B3) 0xCBF29CE484222325

/-- A module ready to be instantiated. -/
structure Compiled where
  name : String
  module : Module
  digest : UInt64

/-- What a compiler goes by: how files are told apart, and what the module of a file is, with
threads or without, or why there is none. -/
structure Engine where
  digestOf : Bytes → UInt64
  moduleOf : Bool → Bytes → Except String Module

/-- The engine of the bridge. -/
def Engine.standard : Engine where
  digestOf := digest
  moduleOf threads bytes :=
    (Module.check threads (Module.ofBytes? bytes)).mapError Invalid.message

/-- A compiler and the modules it keeps. -/
structure Compiler where
  config : Configuration
  kept : List (UInt64 × Module) := []

namespace Compiler

/-- The name under which a file that is only checked is reported. -/
def checkName : String := "validation"

/-- A compiler that keeps nothing yet. -/
def new (config : Configuration) : Except Fault Compiler := do
  config.validate
  return ⟨config, []⟩

/-- The module of a file.  A file that is refused is reported under its name. -/
def read (engine : Engine) (compiler : Compiler) (name : String) (bytes : Bytes) :
    Except Fault Module :=
  (engine.moduleOf compiler.config.threads bytes).mapError (.moduleLoad name)

/-- The module kept for a digest, if modules are kept. -/
def kept? (compiler : Compiler) (key : UInt64) : Option Module :=
  if compiler.config.keepModules then compiler.kept.lookup key else none

/-- Keep a module, if modules are kept. -/
def keep (compiler : Compiler) (key : UInt64) (module : Module) : Compiler :=
  if compiler.config.keepModules then
    { compiler with kept := (key, module) :: compiler.kept }
  else compiler

/-- Compile a file under a name, unless a file with its digest is kept already. -/
def compileBy (engine : Engine) (compiler : Compiler) (name : String) (bytes : Bytes) :
    Except Fault (Compiled × Compiler) :=
  let key := engine.digestOf bytes
  match compiler.kept? key with
  | some module => .ok (⟨name, module, key⟩, compiler)
  | none => do
    let module ← compiler.read engine name bytes
    return (⟨name, module, key⟩, compiler.keep key module)

/-- Compile a file under a name, unless it is kept already. -/
def compile (compiler : Compiler) (name : String) (bytes : Bytes) :
    Except Fault (Compiled × Compiler) :=
  compiler.compileBy .standard name bytes

/-- Compile a module file under its name. -/
def compileFile (compiler : Compiler) (file : ModuleFile) :
    Except Fault (Compiled × Compiler) := do
  let bytes ← file.read
  compiler.compile file.moduleName bytes

/-- Check a binary file. -/
def validate (compiler : Compiler) (bytes : Bytes) : Except Fault Unit :=
  match Module.check compiler.config.threads (Module.ofBinary? bytes) with
  | .ok _ => .ok ()
  | .error invalid => .error (.moduleLoad checkName invalid.message)

/-- Forget the modules that are kept. -/
def clear (compiler : Compiler) : Compiler :=
  { compiler with kept := [] }

/-- How many modules are kept. -/
def keptCount (compiler : Compiler) : Nat :=
  compiler.kept.length

/-- The compiler in diagnostics. -/
def describe (compiler : Compiler) : String :=
  Text.Outline.partialRecord "WasmRuntime" [
    ("config", compiler.config.describe),
    ("cached_modules", toString compiler.keptCount)]

/-- Whatever is compiled bears the name it was asked for under. -/
theorem name_of_compile {compiler next : Compiler} {name : String} {bytes : Bytes}
    {compiled : Compiled} (h : compiler.compile name bytes = .ok (compiled, next)) :
    compiled.name = name := by
  simp only [compile, compileBy] at h
  split at h
  · cases h; rfl
  · cases read : compiler.read .standard name bytes with
    | error _ => rw [read] at h; cases h
    | ok module => rw [read] at h; cases h; rfl

end Compiler

end WasmBridge.Wasm
