import WasmBridge.Text.Utf8

/-!
# Paths of module files

A path is a run of bytes, mostly text.  A module is named after the last part of
its path.
-/

namespace WasmBridge

/-- The path of a file. -/
abbrev Path := Bytes

namespace Path

/-- A path in messages. -/
def display (path : Path) : String :=
  Text.Utf8.decodeLossy path

/-- The parts between the slashes, without those that stay in place. -/
def parts (path : Path) : List Bytes :=
  (path.splitOn 0x2F).filter fun part => !part.isEmpty && part != [0x2E]

/-- The name of the file, unless the path leads upwards or nowhere. -/
def fileName? (path : Path) : Option Bytes :=
  match path.parts.getLast? with
  | some part => if part = [0x2E, 0x2E] then none else some part
  | none => none

/-- The name of the file if it is text, and `other` if it is not. -/
def moduleName (path : Path) (other : String) : String :=
  ((path.fileName?).bind Text.Utf8.decode?).getD other

end Path

end WasmBridge
