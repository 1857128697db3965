import WasmBridge.Json.Number
import WasmBridge.Text.Hexadecimal

/-!
# Reading JSON

`parse?` reads a whole text as one JSON value.  Values may be nested 127 levels
deep.  A string holds no control character, and an escaped surrogate only as
half of a pair.
-/

namespace WasmBridge.Json

/-- The blanks allowed between the parts of a JSON text. -/
def isGap (char : Char) : Bool :=
  char == ' ' || char == '\n' || char == '\t' || char == '\r'

/-- The text after the blanks at its front. -/
def skipGap (chars : List Char) : List Char :=
  chars.dropWhile isGap

/-- The code unit of four hexadecimal digits. -/
def unit? (a b c d : Char) : Option Nat := do
  let a ← Text.hexValue? a
  let b ← Text.hexValue? b
  let c ← Text.hexValue? c
  let d ← Text.hexValue? d
  return ((a * 16 + b) * 16 + c) * 16 + d

/-- The character of a simple escape. -/
def simpleEscape? : Char → Option Char
  | '"' => some '"'
  | '\\' => some '\\'
  | '/' => some '/'
  | 'b' => some '\x08'
  | 'f' => some '\x0c'
  | 'n' => some '\n'
  | 'r' => some '\r'
  | 't' => some '\t'
  | _ => none

/-- Read the characters of a string up to the closing quote, after those that
stand in `done` in reverse order. -/
def readChars (done : List Char) : List Char → Option (String × List Char)
  | '"' :: rest => some (String.ofList done.reverse, rest)
  | '\\' :: 'u' :: a :: b :: c :: d :: rest =>
    match unit? a b c d with
    | none => none
    | some high =>
      if 0xDC00 ≤ high ∧ high ≤ 0xDFFF then none
      else if 0xD800 ≤ high ∧ high ≤ 0xDBFF then
        match rest with
        | '\\' :: 'u' :: e :: f :: g :: h :: rest =>
          match unit? e f g h with
          | none => none
          | some low =>
            if 0xDC00 ≤ low ∧ low ≤ 0xDFFF then
              let code := 0x10000 + (high - 0xD800) * 0x400 + (low - 0xDC00)
              readChars (Char.ofNat code :: done) rest
            else none
        | _ => none
      else readChars (Char.ofNat high :: done) rest
  | '\\' :: mark :: rest =>
    match simpleEscape? mark with
    | none => none
    | some char => readChars (char :: done) rest
  | char :: rest =>
    if char.toNat < 0x20 ∨ char = '\\' then none else readChars (char :: done) rest
  | [] => none

/-- The text after an expected word. -/
def expect? : List Char → List Char → Option (List Char)
  | [], rest => some rest
  | expected :: more, char :: rest => if expected = char then expect? more rest else none
  | _ :: _, [] => none

mutual

/-- Read a value that may nest `depth` more levels, taking at most `fuel`
steps. -/
def readValue (depth : Nat) : Nat → List Char → Option (Json × List Char)
  | 0, _ => none
  | fuel + 1, chars =>
    match skipGap chars with
    | 'n' :: rest => (expect? "ull".toList rest).map (Json.null, ·)
    | 't' :: rest => (expect? "rue".toList rest).map (Json.bool true, ·)
    | 'f' :: rest => (expect? "alse".toList rest).map (Json.bool false, ·)
    | '"' :: rest => (readChars [] rest).map fun (text, rest) => (Json.string text, rest)
    | '[' :: rest =>
      match depth with
      | 0 => none
      | depth + 1 =>
        match skipGap rest with
        | ']' :: rest => some (.array [], rest)
        | rest => (readItems depth fuel rest).map fun (items, rest) => (Json.array items, rest)
    | '\x7b' :: rest =>
      match depth with
      | 0 => none
      | depth + 1 =>
        match skipGap rest with
        | '\x7d' :: rest => some (.object [], rest)
        | rest =>
          (readFields depth fuel rest).map fun (fields, rest) => (Json.ofFields fields, rest)
    | chars => readNumber chars

/-- Read the items of an array and its closing bracket. -/
def readItems (depth : Nat) : Nat → List Char → Option (List Json × List Char)
  | 0, _ => none
  | fuel + 1, chars =>
    match readValue depth fuel chars with
    | none => none
    | some (item, rest) =>
      match skipGap rest with
      | ']' :: rest => some ([item], rest)
      | ',' :: rest =>
        (readItems depth fuel rest).map fun (items, rest) => (item :: items, rest)
      | _ => none

/-- Read the fields of an object and its closing brace. -/
def readFields (depth : Nat) : Nat → List Char → Option (List (String × Json) × List Char)
  | 0, _ => none
  | fuel + 1, chars =>
    match skipGap chars with
    | '"' :: rest =>
      match readChars [] rest with
      | none => none
      | some (name, rest) =>
        match skipGap rest with
        | ':' :: rest =>
          match readValue depth fuel rest with
          | none => none
          | some (value, rest) =>
            match skipGap rest with
            | '\x7d' :: rest => some ([(name, value)], rest)
            | ',' :: rest =>
              (readFields depth fuel rest).map fun (fields, rest) =>
                ((name, value) :: fields, rest)
            | _ => none
        | _ => none
    | _ => none

end

/-- How deep values may nest. -/
def greatestDepth : Nat := 127

/-- Read a whole text as one JSON value. -/
def parse? (text : String) : Option Json :=
  match readValue greatestDepth (text.length + 1) text.toList with
  | some (json, rest) => if (skipGap rest).isEmpty then some json else none
  | none => none

end WasmBridge.Json
