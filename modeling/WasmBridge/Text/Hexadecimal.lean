/-!
# Hexadecimal digits

A digit may be written in either letter case.
-/

namespace WasmBridge.Text

/-- The value of a hexadecimal digit. -/
def hexValue? (char : Char) : Option Nat :=
  if '0' ≤ char ∧ char ≤ '9' then some (char.toNat - '0'.toNat)
  else if 'a' ≤ char ∧ char ≤ 'f' then some (char.toNat - 'a'.toNat + 10)
  else if 'A' ≤ char ∧ char ≤ 'F' then some (char.toNat - 'A'.toNat + 10)
  else none

/-- A hexadecimal digit is worth less than sixteen. -/
theorem hexValue?_lt {char : Char} {value : Nat} (h : hexValue? char = some value) :
    value < 16 := by
  have code : ∀ {a b : Char}, a ≤ b ↔ a.toNat ≤ b.toNat := fun {a b} => by
    simp [Char.le_def, UInt32.le_iff_toNat_le]
  unfold hexValue? at h
  simp only [code] at h
  split at h
  · have : '0'.toNat = 48 ∧ '9'.toNat = 57 := by decide
    simp at h; omega
  split at h
  · have : 'a'.toNat = 97 ∧ 'f'.toNat = 102 := by decide
    simp at h; omega
  split at h
  · have : 'A'.toNat = 65 ∧ 'F'.toNat = 70 := by decide
    simp at h; omega
  · simp at h

end WasmBridge.Text
