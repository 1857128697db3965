/-!
# Outlines of structured values

In diagnostics a structured value is outlined by its title and, between braces,
its named fields.  An outline that leaves parts out ends in two dots.
-/

namespace WasmBridge.Text.Outline

/-- Parts with commas between them. -/
def commas (parts : List String) : String :=
  ", ".intercalate parts

/-- Parts between braces. -/
def braces (parts : List String) : String :=
  "\x7b" ++ commas parts ++ "\x7d"

/-- Parts between brackets. -/
def brackets (parts : List String) : String :=
  "[" ++ commas parts ++ "]"

/-- A named part. -/
def field (name value : String) : String :=
  name ++ ": " ++ value

/-- A title and its parts between braces with blanks. -/
def titled (title : String) (parts : List String) : String :=
  title ++ " \x7b " ++ commas parts ++ " \x7d"

/-- A value and all its fields. -/
def record (title : String) (fields : List (String × String)) : String :=
  titled title (fields.map fun (name, value) => field name value)

/-- A value and some of its fields. -/
def partialRecord (title : String) (fields : List (String × String)) : String :=
  titled title ((fields.map fun (name, value) => field name value) ++ [".."])

/-- A value that may be missing. -/
def option {α : Type} (describe : α → String) : Option α → String
  | some value => "Some(" ++ describe value ++ ")"
  | none => "None"

end WasmBridge.Text.Outline
