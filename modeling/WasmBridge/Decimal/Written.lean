import WasmBridge.Decimal.Shortest

/-!
# Written numbers

The digits of a number are written in positions or with an exponent, by a style
that says when an exponent is used, how it looks, and whether a whole number
keeps a fraction.  Three styles are in use: `plain` for text handed to a guest,
`described` for diagnostics, and `json`.
-/

namespace WasmBridge.Decimal

/-- How numbers are written. -/
structure Style where
  /-- The magnitudes that are written in positions; `none` for all of them. -/
  positional : Option (Int × Int)
  /-- What follows a whole number written in positions. -/
  wholeEnding : String
  /-- Whether an exponent at or above zero has a sign. -/
  signedExponent : Bool
  /-- Which of two equally near numbers is written. -/
  tie : Tie

/-- Text handed to a guest: never an exponent, no fraction of zero. -/
def Style.plain : Style := ⟨none, "", false, .upper⟩

/-- Diagnostics: an exponent from `1e16` up and below `1e-4`. -/
def Style.described : Style := ⟨some (-4, 15), ".0", false, .upper⟩

/-- JSON: an exponent, always with a sign, from `1e16` up and below `1e-5`. -/
def Style.json : Style := ⟨some (-5, 15), ".0", true, .even⟩

/-- So many zeros. -/
def zeros (count : Nat) : List Char := List.replicate count '0'

/-- The magnitude of a positive number given by its digits. -/
def writeDigits (style : Style) (number : Digits) : List Char :=
  let digits := Nat.toDigits 10 number.digits
  let magnitude := number.exponent + digits.length - 1
  let positional : Bool := match style.positional with
    | none => true
    | some (least, greatest) => decide (least ≤ magnitude ∧ magnitude ≤ greatest)
  if positional then
    if 0 ≤ number.exponent then
      digits ++ zeros number.exponent.toNat ++ style.wholeEnding.toList
    else if 0 ≤ magnitude then
      digits.take (magnitude.toNat + 1) ++ '.' :: digits.drop (magnitude.toNat + 1)
    else
      ['0', '.'] ++ zeros ((-magnitude).toNat - 1) ++ digits
  else
    let fraction := if digits.length = 1 then [] else '.' :: digits.drop 1
    let sign := if magnitude < 0 then ['-'] else if style.signedExponent then ['+'] else []
    digits.take 1 ++ fraction ++ 'e' :: sign ++ Nat.toDigits 10 magnitude.natAbs

/-- A number as text. -/
def write (style : Style) (number : Float) : String :=
  match Binary.ofFloat number with
  | .nan => "NaN"
  | .infinite negative => if negative then "-inf" else "inf"
  | .finite negative mantissa exponent =>
    let magnitude :=
      if mantissa = 0 then '0' :: style.wholeEnding.toList
      else writeDigits style (shortest style.tie mantissa exponent)
    String.ofList (if negative then '-' :: magnitude else magnitude)

end WasmBridge.Decimal
