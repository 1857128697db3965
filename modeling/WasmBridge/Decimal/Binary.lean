/-!
# Binary numbers taken apart

A double is a sign, a natural mantissa and a power of two, or no number at all.
Everything that writes or rounds a number starts from these parts, in exact
arithmetic on natural numbers.
-/

namespace WasmBridge.Decimal

/-- The parts of a double. -/
inductive Binary where
  | nan
  | infinite (negative : Bool)
  /-- The number of this sign and of magnitude `mantissa * 2 ^ exponent`. -/
  | finite (negative : Bool) (mantissa : Nat) (exponent : Int)
deriving DecidableEq

/-- The exponent of the numbers closest to zero. -/
def leastExponent : Int := -1074

/-- The parts of the double with the given bits. -/
def Binary.ofBits (bits : UInt64) : Binary :=
  let negative := bits.toNat / Nat.pow 2 63 == 1
  let biased : Nat := bits.toNat / Nat.pow 2 52 % Nat.pow 2 11
  let fraction : Nat := bits.toNat % Nat.pow 2 52
  if biased = 0 then .finite negative fraction leastExponent
  else if biased = Nat.pow 2 11 - 1 then
    if fraction = 0 then .infinite negative else .nan
  else .finite negative (Nat.pow 2 52 + fraction) ((biased : Int) - 1075)

/-- The parts of a double. -/
def Binary.ofFloat (number : Float) : Binary :=
  .ofBits number.toBits

/-- The value of a double that has no fractional part. -/
def Binary.integer? : Binary → Option Int
  | .finite negative mantissa exponent =>
    let magnitude? :=
      if 0 ≤ exponent then some (mantissa * Nat.pow 2 exponent.toNat)
      else if mantissa % Nat.pow 2 (-exponent).toNat = 0 then
        some (mantissa / Nat.pow 2 (-exponent).toNat)
      else none
    magnitude?.map fun magnitude => if negative then -(magnitude : Int) else magnitude
  | _ => none

end WasmBridge.Decimal
