import WasmBridge.Library.Program
import WasmBridge.Text.Outline
import WasmBridge.Text.Quoted

/-!
# Libraries

A library has a name and serves commands.  The host offers libraries in a
catalog; each context registers those it needs and numbers them from 2 on in the
order of their registration.  A number is never given away twice.
-/

namespace WasmBridge

/-- A library: its name, and the program that serves a command with a payload. -/
structure Library where
  name : String
  serve : UInt32 → Bytes → Program UInt32

/-- A library in diagnostics. -/
def Library.describe (library : Library) : String :=
  Text.Outline.partialRecord "FnLibrary" [("name", Text.quote library.name)]

/-- The libraries of a context in the order of their registration. -/
structure Registry where
  entries : List Library := []

namespace Registry

/-- The number of the next library. -/
def nextId (registry : Registry) : UInt32 :=
  Wire.firstLibrary + UInt32.ofNat registry.entries.length

/-- Register a library and number it. -/
def register (registry : Registry) (library : Library) : UInt32 × Registry :=
  (registry.nextId, ⟨registry.entries ++ [library]⟩)

/-- The library of a number. -/
def resolve (registry : Registry) (id : UInt32) : Except Fault Library :=
  if id < Wire.firstLibrary then .error (.unknownLibrary id)
  else match registry.entries[(id - Wire.firstLibrary).toNat]? with
    | some library => .ok library
    | none => .error (.unknownLibrary id)

/-- How many libraries are registered. -/
def length (registry : Registry) : Nat :=
  registry.entries.length

/-- The numbers and names of the libraries, in order. -/
def listing (registry : Registry) : List (UInt32 × String) :=
  registry.entries.zipIdx.map fun (library, index) =>
    (Wire.firstLibrary + UInt32.ofNat index, library.name)

/-- The registry in diagnostics. -/
def describe (registry : Registry) : String :=
  Text.Outline.braces (registry.listing.map fun (id, name) =>
    Text.Outline.field (toString id) (Text.quote name))

/-- A library takes the number that was next. -/
theorem register_fst (registry : Registry) (library : Library) :
    (registry.register library).1 = registry.nextId := rfl

end Registry

/-- The libraries that a host offers, by name. -/
abbrev Catalog := Fields Library

namespace Catalog

/-- Offer a library under a name, in place of the one offered so far. -/
def insertAs (catalog : Catalog) (name : String) (library : Library) : Catalog :=
  Fields.set name library catalog

/-- Offer a library under its own name. -/
def insert (catalog : Catalog) (library : Library) : Catalog :=
  catalog.insertAs library.name library

/-- The library offered under a name. -/
def find (catalog : Catalog) (name : String) : Except Fault Library :=
  match Fields.get? name catalog with
  | some library => .ok library
  | none => .error (.unknownLibraryName name)

/-- The catalog in diagnostics. -/
def describe (catalog : Catalog) : String :=
  Text.Outline.braces ((Fields.names catalog).map Text.quote)

/-- The library offered last under a name is the one found. -/
theorem find_insertAs (catalog : Catalog) (name : String) (library : Library) :
    (catalog.insertAs name library).find name = .ok library := by
  simp [find, insertAs, Fields.get?_set_self]

end Catalog

end WasmBridge
