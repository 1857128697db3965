/-!
# Numerals

Numbers as they are typed: natural numbers of a bounded size, and decimal
fractions with an optional exponent, which are rounded to the nearest double.
-/

namespace WasmBridge.Decimal

/-- The value of a decimal digit. -/
def digit? (char : Char) : Option Nat :=
  if '0' ≤ char ∧ char ≤ '9' then some (char.toNat - '0'.toNat) else none

/-- Whether a character is a decimal digit. -/
def isDigit (char : Char) : Bool := (digit? char).isSome

/-- The number that a run of digits denotes. -/
def valueOf (digits : List Char) : Nat :=
  digits.foldl (fun value char => 10 * value + (digit? char).getD 0) 0

/-- Why a text is not a 32-bit natural number. -/
inductive NumeralError where
  | empty
  | invalidDigit
  | tooLarge
deriving DecidableEq

/-- The wording of a refused numeral. -/
def NumeralError.message : NumeralError → String
  | .empty => "cannot parse integer from empty string"
  | .invalidDigit => "invalid digit found in string"
  | .tooLarge => "number too large to fit in target type"

/-- Read digits after a number already read, refusing the first character that
is no digit or takes the number out of range. -/
def readDigits32 (value : Nat) : List Char → Except NumeralError UInt32
  | [] => .ok (UInt32.ofNat value)
  | char :: rest =>
    match digit? char with
    | none => .error .invalidDigit
    | some digit =>
      if 10 * value + digit < UInt32.size then readDigits32 (10 * value + digit) rest
      else .error .tooLarge

/-- Read a 32-bit natural number: an optional plus sign and at least one digit. -/
def readUInt32 (text : String) : Except NumeralError UInt32 :=
  match text.toList with
  | [] => .error .empty
  | ['+'] => .error .invalidDigit
  | '+' :: rest => readDigits32 0 rest
  | chars => readDigits32 0 chars

/-- The magnitude
`mantissa * 10 ^ exponent` rounded to the nearest double, infinite when it is
out of range. -/
def roundToFloat (mantissa : Nat) (exponent : Int) : Float :=
  let places := (Nat.toDigits 10 mantissa).length + exponent
  if mantissa = 0 ∨ places < -330 then 0.0
  else if 310 < places then 1.0 / 0.0
  else Float.ofScientific mantissa (exponent < 0) exponent.natAbs

/-- The number with this sign. -/
def withSign (negative : Bool) (magnitude : Float) : Float :=
  if negative then -magnitude else magnitude

/-- Read an exponent after its mark: an optional sign and at least one digit. -/
def readExponent? (chars : List Char) : Option Int :=
  let (negative, digits) := match chars with
    | '-' :: rest => (true, rest)
    | '+' :: rest => (false, rest)
    | rest => (false, rest)
  if digits.isEmpty ∨ ¬ digits.all isDigit then none
  else some (if negative then -(valueOf digits : Int) else valueOf digits)

/-- Read an unsigned decimal fraction: digits with an optional point among them,
and an optional exponent. -/
def readMagnitude? (chars : List Char) : Option Float :=
  let whole := chars.takeWhile isDigit
  let rest := chars.dropWhile isDigit
  let (fraction, rest) := match rest with
    | '.' :: rest => (rest.takeWhile isDigit, rest.dropWhile isDigit)
    | rest => ([], rest)
  if whole.isEmpty ∧ fraction.isEmpty then none
  else
    let mantissa := valueOf (whole ++ fraction)
    match rest with
    | [] => some (roundToFloat mantissa (-fraction.length))
    | mark :: rest =>
      if mark = 'e' ∨ mark = 'E' then
        (readExponent? rest).map fun exponent =>
          roundToFloat mantissa (exponent - fraction.length)
      else none

/-- Read a number: an optional sign, then a decimal fraction or one of the
words `inf`, `infinity` and `nan` in any letter case. -/
def readFloat? (text : String) : Option Float :=
  let (negative, chars) := match text.toList with
    | '-' :: rest => (true, rest)
    | '+' :: rest => (false, rest)
    | rest => (false, rest)
  let word := String.ofList (chars.map Char.toLower)
  if word = "inf" ∨ word = "infinity" then some (withSign negative (1.0 / 0.0))
  else if word = "nan" then some (0.0 / 0.0)
  else (readMagnitude? chars).map (withSign negative)

end WasmBridge.Decimal
