import WasmBridge.Decimal.Written
import WasmBridge.Json.Basic

/-!
# Written JSON

`compact` writes a value on one line without blanks, `pretty` one item a line,
indented by two blanks a level.  A number that is not finite has no JSON form
and is written as `null`.
-/

namespace WasmBridge.Json

/-- A hexadecimal digit. -/
def hexDigit (value : Nat) : Char :=
  Nat.digitChar (value % 16)

/-- The written form of one character of a string. -/
def escapeChar (char : Char) : List Char :=
  match char with
  | '"' => ['\\', '"']
  | '\\' => ['\\', '\\']
  | '\n' => ['\\', 'n']
  | '\r' => ['\\', 'r']
  | '\t' => ['\\', 't']
  | '\x08' => ['\\', 'b']
  | '\x0c' => ['\\', 'f']
  | char =>
    if char.toNat < 0x20 then
      ['\\', 'u', '0', '0', hexDigit (char.toNat / 16), hexDigit char.toNat]
    else [char]

/-- A string between double quotes. -/
def writeString (text : String) : List Char :=
  '"' :: text.toList.flatMap escapeChar ++ ['"']

/-- A number, or `null` when it is not finite. -/
def writeNumber (value : Float) : List Char :=
  match Decimal.Binary.ofFloat value with
  | .finite .. => (Decimal.write .json value).toList
  | _ => "null".toList

/-- A value that holds no other. -/
def writeLeaf : Json → List Char
  | .bool true => "true".toList
  | .bool false => "false".toList
  | .integer value => (toString value).toList
  | .number value => writeNumber value
  | .string text => writeString text
  | _ => "null".toList

mutual

/-- The characters of a value on one line. -/
def compactChars : Json → List Char
  | .array items => '[' :: compactItems items ++ [']']
  | .object fields => '\x7b' :: compactFields fields ++ ['\x7d']
  | leaf => writeLeaf leaf

/-- The items of an array, with commas between them. -/
def compactItems : List Json → List Char
  | [] => []
  | [item] => compactChars item
  | item :: rest => compactChars item ++ ',' :: compactItems rest

/-- The fields of an object, with commas between them. -/
def compactFields : List (String × Json) → List Char
  | [] => []
  | [(name, value)] => writeString name ++ ':' :: compactChars value
  | (name, value) :: rest =>
    writeString name ++ ':' :: compactChars value ++ ',' :: compactFields rest

end

/-- A value on one line. -/
def compact (json : Json) : String :=
  String.ofList (compactChars json)

/-- A new line indented by so many levels. -/
def newLine (level : Nat) : List Char :=
  '\n' :: List.replicate (2 * level) ' '

mutual

/-- The characters of a value that starts at an indented line. -/
def prettyChars (level : Nat) : Json → List Char
  | .array [] => ['[', ']']
  | .array items => '[' :: prettyItems (level + 1) items ++ newLine level ++ [']']
  | .object [] => ['\x7b', '\x7d']
  | .object fields => '\x7b' :: prettyFields (level + 1) fields ++ newLine level ++ ['\x7d']
  | leaf => writeLeaf leaf

/-- The items of an array, one a line. -/
def prettyItems (level : Nat) : List Json → List Char
  | [] => []
  | [item] => newLine level ++ prettyChars level item
  | item :: rest => newLine level ++ prettyChars level item ++ ',' :: prettyItems level rest

/-- The fields of an object, one a line. -/
def prettyFields (level : Nat) : List (String × Json) → List Char
  | [] => []
  | [(name, value)] =>
    newLine level ++ writeString name ++ ':' :: ' ' :: prettyChars level value
  | (name, value) :: rest =>
    newLine level ++ writeString name ++ ':' :: ' ' :: prettyChars level value
      ++ ',' :: prettyFields level rest

end

/-- A value with one item a line. -/
def pretty (json : Json) : String :=
  String.ofList (prettyChars 0 json)

end WasmBridge.Json
