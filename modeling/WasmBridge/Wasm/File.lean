import WasmBridge.Fault
import WasmBridge.Wasm.Path

/-!
# Module files

What was found under the path of a module: the bytes of a file, nothing at all,
or something that cannot be read as a file.
-/

namespace WasmBridge

/-- What was found under a path; the causes are the system's. -/
inductive FileContent where
  | bytes (content : Bytes)
  | absent (cause : String)
  | unreadable (cause : String)
deriving DecidableEq

namespace FileContent

/-- Whether there is something under the path. -/
def isPresent : FileContent → Bool
  | absent _ => false
  | _ => true

/-- The bytes of a file, or why there are none. -/
def read : FileContent → Except String Bytes
  | bytes content => .ok content
  | absent cause | unreadable cause => .error cause

end FileContent

/-- A path and what was found under it. -/
structure ModuleFile where
  path : Path
  content : FileContent
deriving DecidableEq

namespace ModuleFile

/-- The bytes of the file. -/
def read (file : ModuleFile) : Except Fault Bytes :=
  file.content.read.mapError (.io file.path.display)

/-- The name of the module that the host loads from the file. -/
def moduleName (file : ModuleFile) : String :=
  file.path.moduleName "unknown"

end ModuleFile

end WasmBridge
