import WasmBridge.Json.Basic

/-!
# Numbers in JSON texts

A number without fraction and exponent is a whole number as long as it fits
into 64 bits.  Any other is gathered into a 64-bit significand and a power of
ten, further digits being dropped, and then scaled in double arithmetic; this is
the nearest double for up to fifteen digits.  A number too large for a double is
refused.
-/

namespace WasmBridge.Json

open Decimal

/-- The first significand that does not fit. -/
def significandBound : Nat := UInt64.size

/-- The double `10 ^ exponent`, for the exponents that have one. -/
def powerOfTen (exponent : Nat) : Float :=
  Float.ofScientific 1 false exponent

/-- Scale a magnitude by a power of ten in at most `fuel` divisions, refusing an
infinite result. -/
def scale : Nat → Float → Int → Option Float
  | fuel, magnitude, exponent =>
    if exponent.natAbs ≤ 308 then
      if 0 ≤ exponent then
        let scaled := magnitude * powerOfTen exponent.natAbs
        if scaled.isInf then none else some scaled
      else some (magnitude / powerOfTen exponent.natAbs)
    else if magnitude == 0.0 then some magnitude
    else if 0 ≤ exponent then none
    else match fuel with
      | 0 => some 0.0
      | fuel + 1 => scale fuel (magnitude / powerOfTen 308) (exponent + 308)

/-- The double of a significand and a power of ten. -/
def ofParts (negative : Bool) (significand : Nat) (exponent : Int) : Option Float :=
  (scale 3 (UInt64.ofNat significand).toFloat exponent).map (withSign negative)

/-- Digits added to a significand until one does not fit: the significand, how
many digits went in, and whether some were left over. -/
def gather (significand taken : Nat) : List Char → Nat × Nat × Bool
  | [] => (significand, taken, false)
  | char :: rest =>
    let next := 10 * significand + (digit? char).getD 0
    if next < significandBound then gather next (taken + 1) rest
    else (significand, taken, true)

/-- A number read off the front of a text, and what follows it. -/
abbrev Reading := Option (Json × List Char)

/-- A float read off the front of a text. -/
def floatReading (value? : Option Float) (rest : List Char) : Reading :=
  value?.map fun value => (.number value, rest)

/-- Read what follows the exponent mark. -/
def readExponent (negative : Bool) (significand : Nat) (exponent : Int) (chars : List Char) :
    Reading :=
  let (down, chars) : Bool × List Char := match chars with
    | '+' :: rest => (false, rest)
    | '-' :: rest => (true, rest)
    | rest => (false, rest)
  let digits := chars.takeWhile isDigit
  let rest := chars.dropWhile isDigit
  let power := valueOf digits
  if digits.isEmpty then none
  else if power < 0x80000000 then
    let bound : Int := 0x80000000
    let shifted := if down then exponent - power else exponent + power
    floatReading (ofParts negative significand (max (-bound) (min (bound - 1) shifted))) rest
  else if significand ≠ 0 ∧ ¬ down then none
  else floatReading (some (withSign negative 0.0)) rest

/-- Read what follows the digits before the point: a fraction, an exponent,
both or neither. -/
def readFraction (negative : Bool) (significand : Nat) (exponent : Int) (chars : List Char) :
    Reading :=
  match chars with
  | '.' :: chars =>
    let digits := chars.takeWhile isDigit
    let rest := chars.dropWhile isDigit
    let (significand, taken, _) := gather significand 0 digits
    if digits.isEmpty then none
    else match rest with
      | 'e' :: rest => readExponent negative significand (exponent - taken) rest
      | 'E' :: rest => readExponent negative significand (exponent - taken) rest
      | rest => floatReading (ofParts negative significand (exponent - taken)) rest
  | 'e' :: rest => readExponent negative significand exponent rest
  | 'E' :: rest => readExponent negative significand exponent rest
  | rest => floatReading (ofParts negative significand exponent) rest

/-- The whole number of a sign and a magnitude, as a double when it does not fit
into 64 bits or is a negative zero. -/
def wholeNumber (negative : Bool) (magnitude : Nat) : Json :=
  if ¬ negative then .integer magnitude
  else if magnitude = 0 ∨ 0x8000000000000000 < magnitude then
    .number (withSign true (UInt64.ofNat magnitude).toFloat)
  else .integer (-magnitude)

/-- Read a number off the front of a text. -/
def readNumber (chars : List Char) : Reading :=
  let (negative, chars) : Bool × List Char := match chars with
    | '-' :: rest => (true, rest)
    | rest => (false, rest)
  let digits := chars.takeWhile isDigit
  let rest := chars.dropWhile isDigit
  match digits with
  | [] => none
  | '0' :: _ :: _ => none
  | digits =>
    let (significand, taken, left) := gather 0 0 digits
    let dropped : Int := digits.length - taken
    match left, rest with
    | false, '.' :: _ => readFraction negative significand 0 rest
    | false, 'e' :: _ => readFraction negative significand 0 rest
    | false, 'E' :: _ => readFraction negative significand 0 rest
    | false, _ => some (wholeNumber negative significand, rest)
    | true, _ => readFraction negative significand dropped rest

end WasmBridge.Json
