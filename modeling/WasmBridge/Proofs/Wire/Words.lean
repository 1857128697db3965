import WasmBridge.Proofs.Lists
import WasmBridge.Wire.Words

/-!
# Words and their bytes

A word is a number in base 256 and its bytes are the digits, the lowest first.  A payload
of words comes from exactly one list of words.
-/

namespace WasmBridge.Wire

variable {payload : Bytes} {what : String} {word : UInt32} {words : List UInt32}

/-! ## One word -/

theorem toNat_decodeWord (a b c d : UInt8) :
    (decodeWord a b c d).toNat =
      a.toNat + 256 * (b.toNat + 256 * (c.toNat + 256 * d.toNat)) := by
  have first : a.toNat < 2 ^ 8 := a.toNat_lt
  have second : b.toNat < 2 ^ 8 := b.toNat_lt
  have third : c.toNat < 2 ^ 8 := c.toNat_lt
  have fourth : d.toNat < 2 ^ 8 := d.toNat_lt
  have shifted (digit : UInt8) (places : Nat) (below : places ≤ 24) :
      digit.toNat <<< places % 2 ^ 32 = digit.toNat <<< places := by
    apply Nat.mod_eq_of_lt
    have bound : digit.toNat < 2 ^ 8 := digit.toNat_lt
    have most : 2 ^ places ≤ 2 ^ 24 := Nat.pow_le_pow_right (by decide) below
    rw [Nat.shiftLeft_eq]
    calc digit.toNat * 2 ^ places ≤ 255 * 2 ^ 24 := Nat.mul_le_mul (by omega) most
      _ < 2 ^ 32 := by decide
  have joined (low high places : Nat) (below : low < 2 ^ places) :
      low ||| high <<< places = high * 2 ^ places + low := by
    rw [Nat.or_comm, ← Nat.shiftLeft_add_eq_or_of_lt below, Nat.shiftLeft_eq]
  have eight : (8 : UInt32).toNat % 32 = 8 := by decide
  have sixteen : (16 : UInt32).toNat % 32 = 16 := by decide
  have twentyFour : (24 : UInt32).toNat % 32 = 24 := by decide
  unfold decodeWord
  simp only [UInt32.toNat_or, UInt32.toNat_shiftLeft, UInt8.toNat_toUInt32, eight, sixteen,
    twentyFour]
  rw [shifted b 8 (by decide), shifted c 16 (by decide), shifted d 24 (by decide),
    joined _ _ 8 (by omega), joined _ _ 16 (by omega), joined _ _ 24 (by omega)]
  omega

theorem encodeWord_eq (word : UInt32) :
    encodeWord word = [UInt8.ofNat word.toNat, UInt8.ofNat (word.toNat / 256),
      UInt8.ofNat (word.toNat / 65536), UInt8.ofNat (word.toNat / 16777216)] := by
  have digit (places : UInt32) (below : places.toNat % 32 = places.toNat) :
      (word >>> places).toUInt8 = UInt8.ofNat (word.toNat / 2 ^ places.toNat) := by
    apply UInt8.toNat.inj
    rw [UInt32.toNat_toUInt8, UInt32.toNat_shiftRight, below, Nat.shiftRight_eq_div_pow,
      UInt8.toNat_ofNat']
  have lowest : word.toUInt8 = UInt8.ofNat word.toNat := by
    apply UInt8.toNat.inj
    rw [UInt32.toNat_toUInt8, UInt8.toNat_ofNat']
  unfold encodeWord
  rw [lowest, digit 8 (by decide), digit 16 (by decide), digit 24 (by decide)]
  rfl

/-- The bytes of a word are its digits. -/
theorem encodeWord_decodeWord (a b c d : UInt8) :
    encodeWord (decodeWord a b c d) = [a, b, c, d] := by
  have first : a.toNat < 2 ^ 8 := a.toNat_lt
  have second : b.toNat < 2 ^ 8 := b.toNat_lt
  have third : c.toNat < 2 ^ 8 := c.toNat_lt
  have fourth : d.toNat < 2 ^ 8 := d.toNat_lt
  have digit (value : Nat) (byte : UInt8) (same : value % 2 ^ 8 = byte.toNat) :
      UInt8.ofNat value = byte := by
    apply UInt8.toNat.inj
    rw [UInt8.toNat_ofNat', same]
  rw [encodeWord_eq, toNat_decodeWord]
  rw [digit _ a (by omega), digit _ b (by omega), digit _ c (by omega), digit _ d (by omega)]

theorem decodeWord_of_encodeWord {a b c d : UInt8} (encoded : encodeWord word = [a, b, c, d]) :
    decodeWord a b c d = word := by
  apply UInt32.toNat.inj
  have bound : word.toNat < 2 ^ 32 := word.toNat_lt
  rw [encodeWord_eq] at encoded
  obtain ⟨rfl, rfl, rfl, rfl⟩ : _ ∧ _ ∧ _ ∧ _ := by simpa using encoded
  rw [toNat_decodeWord]
  simp only [UInt8.toNat_ofNat', UInt32.toNat_toUInt8]
  omega

theorem encodeWord_injective {first second : UInt32} (same : encodeWord first = encodeWord second) :
    first = second :=
  (decodeWord_of_encodeWord same).symm.trans (decodeWord_of_encodeWord rfl)

theorem length_encodeWord (word : UInt32) : (encodeWord word).length = 4 :=
  rfl

/-! ## Lists of words -/

theorem encodeWords_cons (word : UInt32) (words : List UInt32) :
    encodeWords (word :: words) = encodeWord word ++ encodeWords words :=
  rfl

theorem length_encodeWords (words : List UInt32) :
    (encodeWords words).length = 4 * words.length := by
  induction words with
  | nil => rfl
  | cons word words ih =>
      rw [encodeWords_cons, List.length_append, length_encodeWord, ih, List.length_cons]
      omega

theorem groupWords_encodeWords (words : List UInt32) : groupWords (encodeWords words) = words := by
  induction words with
  | nil => rfl
  | cons word words ih =>
      rw [encodeWords_cons, encodeWord, List.cons_append, List.cons_append, List.cons_append,
        List.cons_append, List.nil_append, groupWords, ih, decodeWord_of_encodeWord rfl]

theorem encodeWords_injective {first second : List UInt32}
    (same : encodeWords first = encodeWords second) : first = second := by
  rw [← groupWords_encodeWords first, same, groupWords_encodeWords]

theorem encodeWords_groupWords (payload : Bytes) (whole : payload.length % 4 = 0) :
    encodeWords (groupWords payload) = payload := by
  induction payload using groupWords.induct with
  | case1 a b c d rest ih =>
      have shorter : rest.length % 4 = 0 := by
        rw [List.length_cons, List.length_cons, List.length_cons, List.length_cons] at whole
        omega
      rw [groupWords, encodeWords_cons, encodeWord_decodeWord, ih shorter]
      rfl
  | case2 payload short =>
      match payload with
      | [] => rfl
      | [_] | [_, _] | [_, _, _] => simp at whole
      | a :: b :: c :: d :: rest => exact absurd rfl (short a b c d rest)

/-! ## Payloads -/

/-- A payload is split into words exactly when it is made of them. -/
theorem decodeWords_eq_ok_iff :
    decodeWords payload what = .ok words ↔ payload = encodeWords words := by
  unfold decodeWords
  constructor
  · intro decoded
    split at decoded
    next whole =>
      cases decoded
      exact (encodeWords_groupWords payload whole).symm
    next => cases decoded
  · rintro rfl
    rw [if_pos (by rw [length_encodeWords]; omega), groupWords_encodeWords]

theorem decodeExact_eq_ok_iff {count : Nat} :
    decodeExact count payload what = .ok words ↔
      payload = encodeWords words ∧ words.length = count := by
  unfold decodeExact
  simp only [bind_eq_ok_iff, decodeWords_eq_ok_iff]
  constructor
  · rintro ⟨found, made, tested⟩
    split at tested
    next counted =>
      cases tested
      exact ⟨made, counted⟩
    next => cases tested
  · rintro ⟨made, counted⟩
    exact ⟨words, made, if_pos counted⟩

theorem decodeOne_eq_ok_iff : decodeOne payload what = .ok word ↔ payload = encodeWord word := by
  have alone (word : UInt32) : encodeWords [word] = encodeWord word := List.append_nil _
  unfold decodeOne
  simp only [bind_eq_ok_iff, decodeExact_eq_ok_iff]
  constructor
  · rintro ⟨words, ⟨made, single⟩, head⟩
    obtain ⟨only, rfl⟩ := List.length_eq_one_iff.mp single
    cases head
    exact made.trans (alone only)
  · rintro rfl
    exact ⟨[word], ⟨(alone word).symm, rfl⟩, rfl⟩

theorem decodeTwo_eq_ok_iff {first second : UInt32} :
    decodeTwo payload what = .ok (first, second) ↔ payload = encodeWords [first, second] := by
  unfold decodeTwo
  simp only [bind_eq_ok_iff, decodeExact_eq_ok_iff]
  constructor
  · rintro ⟨words, ⟨made, double⟩, heads⟩
    match words, double with
    | [left, right], _ =>
        cases heads
        exact made
  · rintro rfl
    exact ⟨[first, second], ⟨rfl, rfl⟩, rfl⟩

end WasmBridge.Wire
