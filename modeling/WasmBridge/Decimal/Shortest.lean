import WasmBridge.Decimal.Binary

/-!
# The fewest digits that read back

A positive double is the nearest double to every real of an interval around it.
`shortest` takes the coarsest decimal grid that has a point in this interval,
and of its two points next to the double the nearer one.
-/

namespace WasmBridge.Decimal

/-- A positive rational number. -/
structure Ratio where
  numerator : Nat
  denominator : Nat

namespace Ratio

/-- The number `value * 2 ^ exponent`. -/
def ofBinary (value : Nat) (exponent : Int) : Ratio :=
  if 0 ≤ exponent then ⟨value * Nat.pow 2 exponent.toNat, 1⟩
  else ⟨value, Nat.pow 2 (-exponent).toNat⟩

/-- The number `value * 10 ^ exponent`. -/
def ofDecimal (value : Nat) (exponent : Int) : Ratio :=
  if 0 ≤ exponent then ⟨value * Nat.pow 10 exponent.toNat, 1⟩
  else ⟨value, Nat.pow 10 (-exponent).toNat⟩

/-- The order of two rational numbers. -/
def compare (a b : Ratio) : Ordering :=
  Ord.compare (a.numerator * b.denominator) (b.numerator * a.denominator)

/-- How many whole steps of `10 ^ exponent` fit into the number. -/
def stepsBelow (a : Ratio) (exponent : Int) : Nat :=
  if 0 ≤ exponent then a.numerator / (a.denominator * Nat.pow 10 exponent.toNat)
  else a.numerator * Nat.pow 10 (-exponent).toNat / a.denominator

/-- The exponent of the largest power of ten at or below the number. -/
def magnitude (a : Ratio) : Int :=
  if a.denominator ≤ a.numerator then
    ((Nat.toDigits 10 (a.numerator / a.denominator)).length : Int) - 1
  else
    let places : Int := (Nat.toDigits 10 (a.denominator / a.numerator)).length
    if (ofDecimal 1 (1 - places)).compare a = .gt then -places else 1 - places

end Ratio

/-- Which of two grid points at the same distance is taken. -/
inductive Tie where
  | upper
  | even
deriving DecidableEq

/-- A decimal number `digits * 10 ^ exponent`. -/
structure Digits where
  digits : Nat
  exponent : Int
deriving DecidableEq

/-- The same number without trailing zeros, taking off at most `fuel` of them. -/
def Digits.strip : Nat → Digits → Digits
  | 0, number => number
  | fuel + 1, number =>
    if number.digits ≠ 0 ∧ number.digits % 10 = 0 then
      strip fuel ⟨number.digits / 10, number.exponent + 1⟩
    else number

/-- The reals that read back as `mantissa * 2 ^ exponent`, given in units of a
quarter of the last place. -/
structure Interval where
  lower : Ratio
  middle : Ratio
  upper : Ratio
  closed : Bool

/-- The interval of a positive double.  Below a power of two the doubles lie
twice as close, so the lower half of the interval is half as long. -/
def Interval.of (mantissa : Nat) (exponent : Int) : Interval :=
  let gap := if mantissa = Nat.pow 2 52 ∧ leastExponent < exponent then 1 else 2
  { lower := .ofBinary (4 * mantissa - gap) (exponent - 2)
    middle := .ofBinary (4 * mantissa) (exponent - 2)
    upper := .ofBinary (4 * mantissa + 2) (exponent - 2)
    closed := mantissa % 2 == 0 }

/-- Whether a decimal number reads back as the double. -/
def Interval.holds (interval : Interval) (number : Digits) : Bool :=
  let value := Ratio.ofDecimal number.digits number.exponent
  let fits : Ordering → Ordering → Bool := fun order strict =>
    order == strict || (interval.closed && order == .eq)
  fits (interval.lower.compare value) .lt && fits (value.compare interval.upper) .lt

/-- The grid point next to the double that reads back, if one does. -/
def Interval.point? (interval : Interval) (tie : Tie) (exponent : Int) : Option Digits :=
  let below : Digits := ⟨interval.middle.stepsBelow exponent, exponent⟩
  let above : Digits := ⟨below.digits + 1, exponent⟩
  match interval.holds below, interval.holds above with
  | false, false => none
  | true, false => some below
  | false, true => some above
  | true, true =>
    let half := Ratio.ofDecimal (10 * below.digits + 5) (exponent - 1)
    match interval.middle.compare half with
    | .lt => some below
    | .gt => some above
    | .eq =>
      match tie with
      | .upper => some above
      | .even => some (if below.digits % 2 = 0 then below else above)

/-- The shortest decimal number that reads back as the positive double
`mantissa * 2 ^ exponent`.  Seventeen digits always suffice. -/
def shortest (tie : Tie) (mantissa : Nat) (exponent : Int) : Digits :=
  let interval := Interval.of mantissa exponent
  let top := interval.middle.magnitude
  let point? := (List.range 17).findSome? fun (places : Nat) =>
    interval.point? tie (top - places)
  (point?.getD ⟨0, 0⟩).strip 17

end WasmBridge.Decimal
