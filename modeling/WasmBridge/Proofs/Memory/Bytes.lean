import WasmBridge.Memory.Bridge

/-!
# The bytes of a memory

A memory has a size and a byte at every address.  Putting bytes changes the addresses
of their stretch and no other.  The two ways in which a bridge copies come to the same:
a stretch that fits is copied, any other is refused with its offset, its length and the
size.
-/

namespace WasmBridge

/-- The byte that bytes put from an offset on have at an address. -/
def byteOver? (offset : Nat) (bytes : Bytes) (address : Nat) : Option UInt8 :=
  if offset ≤ address then bytes[address - offset]? else none

theorem byteOver?_eq_none_iff {offset address : Nat} {bytes : Bytes} :
    byteOver? offset bytes address = none ↔
      address < offset ∨ offset + bytes.length ≤ address := by
  unfold byteOver?
  split
  · rw [List.getElem?_eq_none_iff]
    omega
  · simp only [true_iff]
    omega

namespace LinearMemory

variable {memory : LinearMemory} {offset length : Nat} {bytes : Bytes}

theorem fits_iff : memory.fits offset length = true ↔ offset + length ≤ memory.size := by
  unfold fits
  exact decide_eq_true_iff

/-! ## Putting bytes -/

theorem byteAt_insert (memory : LinearMemory) (address : Nat) (byte : UInt8) (other : Nat) :
    { memory with written := memory.written.insert address byte }.byteAt other =
      if address = other then byte else memory.byteAt other := by
  unfold byteAt
  rw [Std.TreeMap.getD_insert]
  simp only [Nat.compare_eq_eq]

/-- An address has the byte that was put there, or the one it had. -/
theorem byteAt_put (memory : LinearMemory) (offset : Nat) (bytes : Bytes) (address : Nat) :
    (memory.put offset bytes).byteAt address =
      (byteOver? offset bytes address).getD (memory.byteAt address) := by
  induction bytes generalizing memory offset with
  | nil =>
      unfold byteOver?
      split <;> rfl
  | cons byte rest ih =>
      rw [put, ih, byteAt_insert]
      unfold byteOver?
      by_cases here : offset = address
      · rw [if_neg (by omega), if_pos here, if_pos (by omega), here, Nat.sub_self]
        rfl
      · rw [if_neg here]
        by_cases after : offset + 1 ≤ address
        · rw [if_pos after, if_pos (by omega)]
          have place : address - offset = (address - (offset + 1)) + 1 := by omega
          rw [place, List.getElem?_cons_succ]
        · rw [if_neg after, if_neg (by omega)]

theorem byteAt_put_of_outside {address : Nat}
    (outside : address < offset ∨ offset + bytes.length ≤ address) :
    (memory.put offset bytes).byteAt address = memory.byteAt address := by
  rw [byteAt_put, byteOver?_eq_none_iff.mpr outside]
  rfl

theorem limit_put (memory : LinearMemory) (offset : Nat) (bytes : Bytes) :
    (memory.put offset bytes).limit = memory.limit := by
  induction bytes generalizing memory offset with
  | nil => rfl
  | cons byte rest ih => rw [put, ih]

theorem pages_put (memory : LinearMemory) (offset : Nat) (bytes : Bytes) :
    (memory.put offset bytes).pages = memory.pages := by
  induction bytes generalizing memory offset with
  | nil => rfl
  | cons byte rest ih => rw [put, ih]

theorem length_slice (memory : LinearMemory) (offset length : Nat) :
    (memory.slice offset length).length = length := by
  rw [slice, List.length_map, List.length_range']

/-- What was put is what the stretch holds. -/
theorem slice_put (memory : LinearMemory) (offset : Nat) (bytes : Bytes) :
    (memory.put offset bytes).slice offset bytes.length = bytes := by
  refine List.ext_getElem (length_slice _ _ _) fun index _ inside => ?_
  simp only [slice, List.getElem_map, List.getElem_range', byteAt_put, byteOver?]
  rw [if_pos (by omega)]
  have place : offset + 1 * index - offset = index := by omega
  rw [place, List.getElem?_eq_getElem inside]
  rfl

/-! ## Growth -/

/-- A memory may have grown, up to its limit, and may have been written to. -/
structure GrowsInto (first later : LinearMemory) : Prop where
  pages : first.pages ≤ later.pages
  limit : later.limit = first.limit
  within : first.pages ≤ first.limit → later.pages ≤ later.limit

namespace GrowsInto

variable {first middle later : LinearMemory}

theorem refl (memory : LinearMemory) : memory.GrowsInto memory :=
  ⟨Nat.le_refl _, rfl, id⟩

theorem trans (early : first.GrowsInto middle) (late : middle.GrowsInto later) :
    first.GrowsInto later :=
  ⟨Nat.le_trans early.pages late.pages, late.limit.trans early.limit,
    fun within => late.within (early.within within)⟩

theorem put (memory : LinearMemory) (offset : Nat) (bytes : Bytes) :
    memory.GrowsInto (memory.put offset bytes) where
  pages := Nat.le_of_eq (pages_put memory offset bytes).symm
  limit := limit_put memory offset bytes
  within := by rw [pages_put, limit_put]; exact id

theorem of_putWord? {address word : UInt32}
    (written : first.putWord? address word = some later) : first.GrowsInto later := by
  unfold putWord? at written
  split at written
  · cases written
    exact put first _ _
  · cases written

theorem of_grow? {pages before : Nat} (grown : first.grow? pages = some (before, later)) :
    first.GrowsInto later := by
  unfold grow? at grown
  split at grown
  next fits =>
    cases grown
    exact ⟨Nat.le_add_right _ _, rfl, fun _ => fits⟩
  next => cases grown

end GrowsInto

/-! ## Both ways of copying -/

/-- The engine refuses what does not fit. -/
theorem slice?_eq (memory : LinearMemory) (offset length : Nat) :
    memory.slice? offset length =
      if memory.fits offset length then some (memory.slice offset length) else none := by
  have agrees : (offset ≤ memory.size ∧ length ≤ memory.size - offset) ↔
      memory.fits offset length = true := by
    rw [fits_iff]
    omega
  unfold slice?
  simp only [agrees]

theorem put?_eq (memory : LinearMemory) (offset : Nat) (bytes : Bytes) :
    memory.put? offset bytes =
      if memory.fits offset bytes.length then some (memory.put offset bytes) else none := by
  have agrees : (offset ≤ memory.size ∧ bytes.length ≤ memory.size - offset) ↔
      memory.fits offset bytes.length = true := by
    rw [fits_iff]
    omega
  unfold put?
  simp only [agrees]

end LinearMemory

namespace Bridge

open LinearMemory

/-- A stretch is copied if it fits, whichever memory it is. -/
theorem view_eq (bridge : Bridge) (memory : LinearMemory) (offset length : UInt32) :
    bridge.view memory offset length =
      if memory.fits offset.toNat length.toNat then
        .ok (memory.slice offset.toNat length.toNat)
      else .error (memory.outside offset.toNat length.toNat) := by
  unfold view
  rw [check, slice?_eq]
  cases memory.fits offset.toNat length.toNat with
  | false => rfl
  | true => cases bridge.shared <;> rfl

/-- Bytes are written if they fit, whichever memory it is. -/
theorem write_eq (bridge : Bridge) (memory : LinearMemory) (offset : UInt32) (bytes : Bytes) :
    bridge.write memory offset bytes =
      if memory.fits offset.toNat bytes.length then .ok (memory.put offset.toNat bytes)
      else .error (memory.outside offset.toNat bytes.length) := by
  unfold write
  rw [check, put?_eq]
  cases memory.fits offset.toNat bytes.length with
  | false => rfl
  | true => cases bridge.shared <;> rfl

/-- A stretch is read as the text of a copy, with the offset and length it was asked for. -/
theorem readText_eq (bridge : Bridge) (memory : LinearMemory) (offset length : UInt32) :
    bridge.readText memory offset length =
      bridge.view memory offset length >>= fun bytes => decodeText bytes offset := by
  unfold readText
  rw [view_eq]
  split
  · have counted : UInt32.ofNat (memory.slice offset.toNat length.toNat).length = length := by
      rw [length_slice, UInt32.ofNat_toNat]
    change _ = decodeText _ offset
    unfold decodeText
    rw [counted]
    rfl
  · rfl

end Bridge

end WasmBridge
