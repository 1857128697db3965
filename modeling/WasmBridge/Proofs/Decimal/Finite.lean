import Mathlib.Algebra.Group.Nat.Defs
import WasmBridge.Json.Basic

/-!
# Finite doubles

Rounding drops digits of a mantissa and raises its exponent by no more than the digits it
has, and a double is infinite only when its exponent is out of range.  So the doubles next
to 64-bit whole numbers are finite, and so are the negatives of finite doubles.
-/

namespace WasmBridge.Decimal

open Float.Model Float.Model.UnpackedFloat

/-- The double is a number. -/
def Finite (value : Float) : Prop :=
  ∃ negative mantissa exponent, Binary.ofFloat value = .finite negative mantissa exponent

/-! ## Parts within bounds -/

/-- A number whose mantissa has at most so many digits and whose exponent is at most so
large. -/
inductive Within (digits : Nat) (highest : Int) : UnpackedFloat → Prop where
  | zero {sign : Sign} : Within digits highest (.zero sign)
  | finite {sign : Sign} {mantissa : Nat} {exponent : Int} {positive : 0 < mantissa}
      (short : mantissa < 2 ^ digits) (low : exponent ≤ highest) :
      Within digits highest (.finite sign mantissa exponent positive)

variable {number : UnpackedFloat} {digits mantissa more : Nat} {highest higher exponent : Int}

theorem log2_le_of_lt (fits : mantissa < 2 ^ digits) : mantissa.log2 ≤ digits := by
  by_cases none : mantissa = 0
  · rw [none]
    exact Nat.zero_le _
  · exact Nat.le_of_lt ((Nat.log2_lt none).mpr fits)

/-- The exponent of a mantissa that is shifted to what the format asks for. -/
theorem targetExponent_le (exponent : Int) (fits : mantissa < 2 ^ digits) :
    Format.binary64.targetExponent (totalExponent mantissa exponent) ≤
      max (digits + exponent - 52) (-1074) := by
  have length := log2_le_of_lt fits
  have format (total : Int) :
      Format.binary64.targetExponent total = max (total - 53) (-1074) := rfl
  rw [format]
  unfold totalExponent
  omega

theorem mantissa_shiftRight_le (extended : ExtendedMantissa) (places : Nat) :
    (extended >>> places).mantissa ≤ extended.mantissa := by
  induction places with
  | zero => exact Nat.le_refl _
  | succ places ih => exact Nat.le_trans (Nat.div_le_self _ 2) ih

theorem roundedMantissa_le (extended : ExtendedMantissa) :
    extended.roundedMantissa ≤ extended.mantissa + 1 := by
  rcases extended with ⟨mantissa, round, sticky⟩
  cases round <;> cases sticky <;>
    simp [ExtendedMantissa.roundedMantissa, ExtendedMantissa.accuracy,
      Accuracy.roundToNearestEven]
  omega

theorem shiftToTargetExponent_le (exponent : Int) (accuracy : Accuracy)
    (fits : mantissa < 2 ^ digits) :
    (shiftToTargetExponent Format.binary64 mantissa exponent accuracy).1.mantissa ≤ mantissa ∧
      (shiftToTargetExponent Format.binary64 mantissa exponent accuracy).2 ≤
        max exponent (max (digits + exponent - 52) (-1074)) := by
  have target := targetExponent_le exponent fits
  constructor
  · have start :
        (ExtendedMantissa.ofMantissaAndAccuracy mantissa accuracy).mantissa = mantissa := by
      cases accuracy with
      | exact => rfl
      | inexact side => cases side <;> rfl
    exact Nat.le_trans (mantissa_shiftRight_le _ _) (Nat.le_of_eq start)
  · unfold shiftToTargetExponent shiftToExponent
    dsimp only
    omega

/-- Rounding adds at most one digit, and no more to the exponent than there are digits. -/
theorem within_roundWithAccuracy (sign : Sign) (accuracy : Accuracy)
    (fits : mantissa < 2 ^ digits) (low : exponent ≤ highest) (enough : 0 ≤ highest) :
    Within (digits + 1) (highest + 2 * digits)
      (roundWithAccuracy Format.binary64 sign mantissa exponent accuracy) := by
  have first := shiftToTargetExponent_le exponent accuracy fits
  have rounded := roundedMantissa_le
    (shiftToTargetExponent Format.binary64 mantissa exponent accuracy).1
  have longer : 2 ^ digits + 1 ≤ 2 ^ (digits + 1) := by
    have some := Nat.two_pow_pos digits
    omega
  -- The mantissa is shifted, rounded, and shifted once more as it may have become too long.
  unfold roundWithAccuracy
  generalize shiftToTargetExponent Format.binary64 mantissa exponent accuracy = shifted at *
  dsimp only
  have second := shiftToTargetExponent_le shifted.2 .exact
    (show shifted.1.roundedMantissa < 2 ^ (digits + 1) by omega)
  generalize shiftToTargetExponent Format.binary64 shifted.1.roundedMantissa shifted.2 .exact =
    again at second ⊢
  by_cases none : again.1.mantissa = 0
  · rw [dif_pos none]
    exact .zero
  · rw [dif_neg none]
    exact .finite (by omega) (by omega)

/-! ## Packed and unpacked -/

/-- The exponent that stands in the bits of a double. -/
def packedExponent (model : Float.Model) : Nat :=
  (@unpackExponent Format.binary64 model.toBits.toBitVec).toNat

/-- A double is finite unless the exponent in its bits is the greatest one. -/
theorem finite_iff {value : Float} : Finite value ↔ packedExponent value.toModel ≠ 2047 := by
  have biased : packedExponent value.toModel =
      value.toBits.toNat / Nat.pow 2 52 % Nat.pow 2 11 := by
    have bits : value.toBits.toNat = value.toModel.toBits.toBitVec.toNat := rfl
    rw [bits]
    simp [packedExponent, unpackExponent, Nat.shiftRight_eq_div_pow]
  rw [biased]
  unfold Finite Binary.ofFloat Binary.ofBits
  dsimp only
  constructor
  · rintro ⟨negative, mantissa, exponent, parts⟩ greatest
    rw [greatest, if_neg (by decide), if_pos rfl] at parts
    split at parts <;> cases parts
  · intro below
    split <;> exact ⟨_, _, _, rfl⟩

/-- The exponent in the bits of a number that is in range. -/
theorem packedExponent_pack (within : Within digits highest number) (low : highest ≤ 971) :
    (packedExponent (.pack number) : Int) ≤ max 0 (highest + 1075) := by
  show ((unpackExponent (UnpackedFloat.pack Format.binary64 number)).toNat : Int) ≤ _
  cases within with
  | zero =>
      unfold UnpackedFloat.pack packedZero
      rw [unpackExponent_packComponents]
      exact Int.le_max_left _ _
  | @finite _ _ exponent _ _ lower =>
      have biased :
          exponent + (Format.binary64.exponentBias : Nat) + (52 : Nat) = exponent + 1075 := by
        simp [Format.exponentBias]
        omega
      unfold UnpackedFloat.pack
      dsimp only
      rw [biased, if_neg (by omega)]
      split
      · rw [unpackExponent_packComponents, BitVec.toNat_ofNat, Nat.mod_eq_of_lt (by omega)]
        omega
      · rw [unpackExponent_packComponents]
        exact Int.le_max_left _ _

theorem finite_pack (within : Within digits highest number) (low : highest ≤ 971) :
    Finite (.ofModel (.pack number)) := by
  have packed := packedExponent_pack within low
  refine finite_iff.mpr ?_
  show packedExponent (.pack number) ≠ 2047
  omega

/-- What is read out of the bits of a double. -/
theorem within_unpack (model : Float.Model) (below : packedExponent model ≠ 2047) :
    Within 53 (max (packedExponent model - 1075) (-1074)) model.unpack := by
  have bias : ((Format.binary64.exponentBias : Nat) : Int) + (52 : Nat) = 1075 := rfl
  unfold packedExponent at below ⊢
  unfold Float.Model.unpack UnpackedFloat.unpack
  generalize @unpackExponent Format.binary64 model.toBits.toBitVec = biased at below ⊢
  have notGreatest : biased ≠ -1#_ := by
    rintro rfl
    exact below rfl
  dsimp only
  rw [bias, if_neg notGreatest]
  by_cases least : biased = 0#11
  · rw [if_pos least]
    by_cases none : @unpackMantissa Format.binary64 model.toBits.toBitVec = 0#52
    · rw [dif_pos none]
      exact .zero
    · rw [dif_neg none]
      have zero : biased.toNat = 0 := congrArg BitVec.toNat least
      exact .finite (Nat.lt_trans (BitVec.isLt _) (by decide)) (by omega)
  · rw [if_neg least]
    exact .finite (BitVec.isLt _) (by omega)

theorem packedExponent_lt (model : Float.Model) : packedExponent model < 2048 :=
  BitVec.isLt _

/-! ## Finite doubles -/

theorem Within.mono (within : Within digits highest number) (digitsLe : digits ≤ more)
    (highestLe : highest ≤ higher) : Within more higher number := by
  cases within with
  | zero => exact .zero
  | finite short low =>
      exact .finite (Nat.lt_of_lt_of_le short (Nat.pow_le_pow_right (by decide) digitsLe))
        (Int.le_trans low highestLe)

theorem within_neg (within : Within digits highest number) :
    Within digits highest number.neg := by
  cases within with
  | zero => exact .zero
  | finite short low => exact .finite short low

theorem finite_neg {value : Float} (finite : Finite value) : Finite (-value) := by
  have below := finite_iff.mp finite
  have bits := packedExponent_lt value.toModel
  exact finite_pack (within_neg (within_unpack _ below)) (by omega)

/-- A product has the digits of both factors. -/
theorem within_mul {other : UnpackedFloat} (within : Within digits highest number)
    (too : Within more higher other) (enough : 0 ≤ highest + higher) :
    Within (digits + more + 1) (highest + higher + 2 * (digits + more : Nat))
      (UnpackedFloat.mul Format.binary64 number other) := by
  cases within with
  | zero =>
      cases too with
      | zero => exact .zero
      | finite => exact .zero
  | @finite sign mantissa _ _ short low =>
      cases too with
      | zero => exact .zero
      | @finite opposite factor _ _ few lower =>
          have product : mantissa * factor < 2 ^ (digits + more) := by
            rw [Nat.pow_add]
            exact Nat.mul_lt_mul'' short few
          exact within_roundWithAccuracy (sign * opposite) .exact product
            (Int.add_le_add low lower) enough

theorem within_ofNat {whole : Nat} (fits : whole < 2 ^ digits) :
    Within (digits + 54) (2 * (digits + 53)) (UnpackedFloat.ofNat Format.binary64 whole) := by
  unfold UnpackedFloat.ofNat UnpackedFloat.ofInt UnpackedFloat.normalize
  split
  · next below =>
      rw [Int.compare_eq_lt] at below
      omega
  · exact .zero
  · unfold UnpackedFloat.round decreaseExponent
    dsimp only
    generalize target : Format.binary64.targetExponent (totalExponent _ 0) = lowest
    have places : (0 - lowest).toNat ≤ 53 := by
      have format : Format.binary64.targetExponent (totalExponent (whole : Int).toNat 0) =
        max (totalExponent (whole : Int).toNat 0 - 53) (-1074) := rfl
      unfold totalExponent at target format
      omega
    have shifted : (whole : Int).toNat <<< (0 - lowest).toNat < 2 ^ (digits + 53) := by
      rw [Int.toNat_natCast, Nat.shiftLeft_eq, Nat.pow_add]
      exact Nat.mul_lt_mul_of_lt_of_le fits (Nat.pow_le_pow_right (by decide) places)
        (Nat.two_pow_pos _)
    have rounded := within_roundWithAccuracy .positive .exact shifted
      (show 0 - ((0 - lowest).toNat : Int) ≤ 0 by omega) (Int.le_refl 0)
    exact rounded.mono (Nat.le_refl _) (by omega)

theorem within_ofScientific {whole : Nat} (fits : whole < 2 ^ digits) :
    Within (digits + 55) (2 * (digits + 54))
      (UnpackedFloat.ofScientific Format.binary64 whole 0) := by
  have range : (2 ^ Format.binary64.exponentBits : Int) = 2048 := rfl
  unfold UnpackedFloat.ofScientific
  rw [range]
  by_cases none : whole = 0
  · rw [dif_pos none]
    exact .zero
  · rw [dif_neg none, if_neg (by decide), if_neg (by omega), if_pos (Int.le_refl 0)]
    have shifted : whole <<< Format.binary64.mantissaBits < 2 ^ (digits + 53) := by
      rw [Nat.shiftLeft_eq, Nat.pow_add]
      exact Nat.mul_lt_mul_of_pos_right fits (Nat.two_pow_pos _)
    have left : Within (digits + 53) 0 (.finite .positive
        (whole <<< Format.binary64.mantissaBits) (-Format.binary64.mantissaBits)
        (by simpa [Nat.pos_iff_ne_zero] using none)) := .finite shifted (by decide)
    have right : Within 1 0 (.finite .positive (10 ^ Int.toNat 0) 0 (by decide)) :=
      .finite (by decide) (Int.le_refl 0)
    exact (within_mul left right (Int.le_refl 0)).mono (by omega) (by omega)

/-- The double next to a whole number that fits into 64 bits is finite. -/
theorem finite_toFloat {whole : Nat} (fits : whole < 2 ^ 64) : Finite whole.toFloat := by
  show Finite (Float.ofScientific whole false 0)
  unfold Float.ofScientific
  split
  -- A number of at most 53 digits is converted and multiplied by one, any other is rounded.
  · have converted := within_ofNat (UInt64.toNat_lt whole.toUInt64)
    have packed := packedExponent_pack converted (by decide)
    have factor := within_unpack
      (.pack (UnpackedFloat.ofNat Format.binary64 whole.toUInt64.toNat)) (by omega)
    have one : packedExponent (Float.toModel Float.exactlyRepresentablePowersOfTen[0]) = 1023 := by
      decide
    have unit := within_unpack (Float.toModel Float.exactlyRepresentablePowersOfTen[0]) (by omega)
    exact finite_pack (within_mul (factor.mono (Nat.le_refl _) (show _ ≤ 234 by omega))
      (unit.mono (Nat.le_refl _) (show _ ≤ 0 by omega)) (by decide)) (by decide)
  · exact finite_pack (within_ofScientific fits) (by decide)

theorem finite_roundToFloat {whole : Nat} (fits : whole < 2 ^ 64) :
    Finite (roundToFloat whole 0) := by
  have short : (Nat.toDigits 10 whole).length ≤ 20 :=
    (Nat.length_toDigits_le_iff (by decide) (by decide)).mpr (Nat.lt_trans fits (by decide))
  unfold roundToFloat
  dsimp only
  split
  · have zero : Finite (Nat.toFloat 0) := finite_toFloat (by decide)
    exact zero
  · rw [if_neg (by omega)]
    exact finite_toFloat fits

/-- The double next to a whole number of either sign is finite when the number fits into
64 bits. -/
theorem finite_floatOfInt {whole : Int} (fits : whole.natAbs < 2 ^ 64) :
    Finite (Json.floatOfInt whole) := by
  unfold Json.floatOfInt withSign
  split
  · exact finite_neg (finite_roundToFloat fits)
  · exact finite_roundToFloat fits

end WasmBridge.Decimal
