import WasmBridge.Handle.Basic

/-!
# Slots and generations of handles

A handle is a number in base `slotCount`: its slot is the low digit and its
generation the high one.  Two handles are equal when both digits are.
-/

namespace WasmBridge.Handle

theorem toNat_slot (handle : Handle) : handle.slot.toNat = handle.toNat % slotCount := by
  unfold Handle.slot slotCount
  rw [UInt32.toNat_and]
  exact Nat.and_two_pow_sub_one_eq_mod handle.toNat 24

theorem toNat_generation (handle : Handle) :
    handle.generation.toNat = handle.toNat / slotCount := by
  have bound : handle.toNat < 2 ^ 32 := handle.toNat_lt
  unfold Handle.generation slotCount
  rw [UInt32.toNat_toUInt8, UInt32.toNat_shiftRight, Nat.shiftRight_eq_div_pow]
  exact Nat.mod_eq_of_lt (by simp; omega)

/-- A packed handle has the generation as its high digit and the slot as its low one. -/
theorem toNat_pack (slot : UInt32) (generation : UInt8) :
    (pack slot generation).toNat = generation.toNat * slotCount + slot.toNat % slotCount := by
  have bound : generation.toNat < 2 ^ 8 := generation.toNat_lt
  have low : slot.toNat % slotCount < 2 ^ 24 := Nat.mod_lt _ (by decide)
  have masked : slot.toNat &&& (16777215 : UInt32).toNat = slot.toNat % slotCount :=
    Nat.and_two_pow_sub_one_eq_mod slot.toNat 24
  have amount : (24 : UInt32).toNat % 32 = 24 := by decide
  have shifted : generation.toNat <<< 24 % 2 ^ 32 = generation.toNat <<< 24 := by
    apply Nat.mod_eq_of_lt
    rw [Nat.shiftLeft_eq]
    omega
  have digit : generation.toNat <<< 24 = generation.toNat * slotCount :=
    Nat.shiftLeft_eq generation.toNat 24
  unfold pack
  rw [UInt32.toNat_or, UInt32.toNat_shiftLeft, UInt32.toNat_and, UInt8.toNat_toUInt32,
    masked, amount, shifted, ← Nat.shiftLeft_add_eq_or_of_lt low, digit]

theorem slot_lt (handle : Handle) : handle.slot.toNat < slotCount := by
  rw [toNat_slot]
  exact Nat.mod_lt _ (by decide)

/-- Packing keeps a slot that a handle can name. -/
theorem slot_pack {index : Nat} (bound : index < slotCount) (generation : UInt8) :
    (pack (UInt32.ofNat index) generation).slot.toNat = index := by
  have fits : index < 2 ^ 32 := Nat.lt_trans bound (by decide)
  rw [toNat_slot, toNat_pack, UInt32.toNat_ofNat_of_lt' fits, Nat.mul_add_mod_self_right,
    Nat.mod_mod, Nat.mod_eq_of_lt bound]

theorem generation_pack (slot : UInt32) (generation : UInt8) :
    (pack slot generation).generation = generation := by
  apply UInt8.toNat.inj
  have low : slot.toNat % slotCount < slotCount := Nat.mod_lt _ (by decide)
  rw [toNat_generation, toNat_pack, Nat.mul_comm, Nat.mul_add_div (by decide),
    Nat.div_eq_of_lt low, Nat.add_zero]

/-- A handle is determined by its slot and its generation. -/
theorem eq_of_slot_of_generation {first second : Handle}
    (slots : first.slot.toNat = second.slot.toNat)
    (generations : first.generation = second.generation) : first = second := by
  apply UInt32.toNat.inj
  have high := congrArg UInt8.toNat generations
  rw [toNat_slot, toNat_slot] at slots
  rw [toNat_generation, toNat_generation] at high
  rw [← Nat.div_add_mod first.toNat slotCount, ← Nat.div_add_mod second.toNat slotCount,
    slots, high]

/-- The handle of a slot at a generation is the one that unpacks to them. -/
theorem eq_pack_iff {handle : Handle} {index : Nat} {generation : UInt8}
    (bound : index < slotCount) :
    handle = pack (UInt32.ofNat index) generation ↔
      handle.slot.toNat = index ∧ handle.generation = generation := by
  constructor
  · rintro rfl
    exact ⟨slot_pack bound generation, generation_pack _ generation⟩
  · rintro ⟨slots, generations⟩
    apply eq_of_slot_of_generation
    · rw [slots, slot_pack bound]
    · rw [generations, generation_pack]

end WasmBridge.Handle
