import WasmBridge.Text.Printable

/-!
# Quoted text

Texts inside diagnostic descriptions stand between double quotes.  Quotes and
backslashes take a backslash, four control characters have letters of their
own, and every other character that cannot be shown is written by its code
point in hexadecimal digits.
-/

namespace WasmBridge.Text

/-- The hexadecimal digits of a number, most significant first. -/
def hexDigits (value : Nat) : List Char :=
  Nat.toDigits 16 value

/-- The written form of one character between double quotes. -/
def quoteChar (char : Char) : List Char :=
  match char with
  | '"' => ['\\', '"']
  | '\\' => ['\\', '\\']
  | '\n' => ['\\', 'n']
  | '\r' => ['\\', 'r']
  | '\t' => ['\\', 't']
  | '\x00' => ['\\', '0']
  | char =>
    if isPrintable char then [char]
    else ['\\', 'u', '\x7b'] ++ hexDigits char.toNat ++ ['\x7d']

/-- A text between double quotes. -/
def quote (text : String) : String :=
  "\"" ++ String.ofList (text.toList.flatMap quoteChar) ++ "\""

end WasmBridge.Text
