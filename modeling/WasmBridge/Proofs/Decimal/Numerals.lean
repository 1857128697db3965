import WasmBridge.Decimal.Numeral

/-!
# Numerals of 32 bits

A numeral is read as the number that its digits denote, however many of them are zeros at the
front, and it is refused only if it is malformed or denotes no 32-bit number.
-/

namespace WasmBridge.Decimal

variable {chars digits : List Char} {value : Nat} {word : UInt32} {text : String}

/-- A text writes a 32-bit number: at least one digit, and a plus sign or nothing before. -/
def Writes (text : String) (word : UInt32) : Prop :=
  ∃ digits, (text.toList = digits ∨ text.toList = '+' :: digits) ∧ digits ≠ [] ∧
    (∀ char ∈ digits, isDigit char = true) ∧ valueOf digits = word.toNat

/-- The number that digits denote after a number already read. -/
def valueAfter (value : Nat) (digits : List Char) : Nat :=
  digits.foldl (fun value char => 10 * value + (digit? char).getD 0) value

theorem valueAfter_zero (digits : List Char) : valueAfter 0 digits = valueOf digits := rfl

theorem le_valueAfter (value : Nat) (digits : List Char) : value ≤ valueAfter value digits := by
  induction digits generalizing value with
  | nil => exact Nat.le_refl _
  | cons char rest ih =>
      have next := ih (10 * value + (digit? char).getD 0)
      rw [valueAfter, List.foldl_cons]
      rw [valueAfter] at next
      omega

/-- Digits are read as long as what they denote stays in range, and it never falls. -/
theorem readDigits32_eq_ok_iff (small : value < UInt32.size) :
    readDigits32 value chars = .ok word ↔
      (∀ char ∈ chars, isDigit char = true) ∧ valueAfter value chars = word.toNat := by
  induction chars generalizing value with
  | nil =>
      rw [readDigits32, Except.ok.injEq, ← UInt32.toNat_inj, UInt32.toNat_ofNat_of_lt' small]
      exact ⟨fun same => ⟨nofun, same⟩, And.right⟩
  | cons char rest ih =>
      rw [readDigits32, valueAfter, List.foldl_cons, List.forall_mem_cons, isDigit]
      cases found : digit? char with
      | none => exact ⟨nofun, fun ⟨⟨impossible, _⟩, _⟩ => by cases impossible⟩
      | some digit =>
          dsimp only [Option.getD_some]
          split
          next within =>
            rw [ih within, valueAfter]
            exact ⟨fun ⟨rest, same⟩ => ⟨⟨rfl, rest⟩, same⟩, fun ⟨⟨_, rest⟩, same⟩ => ⟨rest, same⟩⟩
          next beyond =>
            refine ⟨nofun, fun ⟨_, same⟩ => absurd ?_ beyond⟩
            have rises := le_valueAfter (10 * value + digit) rest
            rw [valueAfter, same] at rises
            exact Nat.lt_of_le_of_lt rises word.toNat_lt

theorem isDigit_plus : isDigit '+' = false := rfl

/-- A numeral is read as the number that it writes. -/
theorem readUInt32_eq_ok_iff : readUInt32 text = .ok word ↔ Writes text word := by
  unfold readUInt32 Writes
  split
  next empty =>
    refine ⟨nofun, fun ⟨digits, written, filled, _⟩ => ?_⟩
    rw [empty] at written
    rcases written with rfl | impossible
    · exact absurd rfl filled
    · cases impossible
  next sign =>
    refine ⟨nofun, fun ⟨digits, written, filled, all, _⟩ => ?_⟩
    rw [sign] at written
    rcases written with rfl | rest
    · exact absurd (all _ List.mem_cons_self) (by simp [isDigit_plus])
    · cases rest
      exact absurd rfl filled
  next rest some signed =>
    rw [readDigits32_eq_ok_iff (by decide), valueAfter_zero]
    constructor
    · rintro ⟨all, same⟩
      exact ⟨rest, .inr signed, by simpa using some, all, same⟩
    · rintro ⟨digits, written, -, all, same⟩
      rw [signed] at written
      rcases written with rfl | digits
      · exact absurd (all _ List.mem_cons_self) (by simp [isDigit_plus])
      · cases digits
        exact ⟨all, same⟩
  next chars some sign unsigned =>
    rw [readDigits32_eq_ok_iff (by decide), valueAfter_zero]
    constructor
    · rintro ⟨all, same⟩
      exact ⟨_, .inl rfl, some, all, same⟩
    · rintro ⟨digits, written, -, all, same⟩
      rcases written with rfl | signed
      · exact ⟨all, same⟩
      · exact absurd signed (unsigned digits)

end WasmBridge.Decimal
