import WasmBridge.Fault

/-!
# What is well-formed UTF-8

A payload is well-formed exactly when it is the encoding of a text, and then it is read
as that text.  Everything is read off its first sequence, which is compared with the
encoding of a scalar as numbers.
-/

namespace WasmBridge

namespace Text.Utf8

variable {a b c d : UInt8} {bytes front rest : Bytes} {char : Char} {text : String} {scalar : Nat}

/-! ## Sequences as numbers -/

theorem isContinuation_iff : isContinuation b = true ↔ 128 ≤ b.toNat ∧ b.toNat ≤ 191 := by
  simp [isContinuation, UInt8.le_iff_toNat_le]

theorem isSecondOfThree_iff :
    isSecondOfThree a b = true ↔
      128 ≤ b.toNat ∧ b.toNat ≤ 191 ∧ (a.toNat = 224 → 160 ≤ b.toNat) ∧
        (a.toNat = 237 → b.toNat ≤ 159) := by
  unfold isSecondOfThree
  simp only [beq_iff_eq, ← UInt8.toNat_inj]
  split
  · next least =>
      simp [least, UInt8.le_iff_toNat_le]
      omega
  · split
    · next notLeast greatest =>
        simp [greatest, UInt8.le_iff_toNat_le]
        omega
    · next notLeast notGreatest =>
        rw [isContinuation_iff]
        simp at notLeast notGreatest
        omega

theorem isSecondOfFour_iff :
    isSecondOfFour a b = true ↔
      128 ≤ b.toNat ∧ b.toNat ≤ 191 ∧ (a.toNat = 240 → 144 ≤ b.toNat) ∧
        (a.toNat = 244 → b.toNat ≤ 143) := by
  unfold isSecondOfFour
  simp only [beq_iff_eq, ← UInt8.toNat_inj]
  split
  · next least =>
      simp [least, UInt8.le_iff_toNat_le]
      omega
  · split
    · next notLeast greatest =>
        simp [greatest, UInt8.le_iff_toNat_le]
        omega
    · next notLeast notGreatest =>
        rw [isContinuation_iff]
        simp at notLeast notGreatest
        omega

/-- The well-formed sequences and the numbers of their scalars. -/
inductive Sequence : Bytes → Nat → Prop where
  | one {a : UInt8} (first : a.toNat < 128) : Sequence [a] a.toNat
  | two {a b : UInt8} (least : 194 ≤ a.toNat) (greatest : a.toNat ≤ 223)
      (second : isContinuation b = true) : Sequence [a, b] (a.toNat % 32 * 64 + tailBits b)
  | three {a b c : UInt8} (least : 224 ≤ a.toNat) (greatest : a.toNat ≤ 239)
      (second : isSecondOfThree a b = true) (third : isContinuation c = true) :
      Sequence [a, b, c] ((a.toNat % 16 * 64 + tailBits b) * 64 + tailBits c)
  | four {a b c d : UInt8} (least : 240 ≤ a.toNat) (greatest : a.toNat ≤ 244)
      (second : isSecondOfFour a b = true) (third : isContinuation c = true)
      (fourth : isContinuation d = true) :
      Sequence [a, b, c, d]
        (((a.toNat % 8 * 64 + tailBits b) * 64 + tailBits c) * 64 + tailBits d)

theorem next_of_sequence (sequence : Sequence front scalar) (rest : Bytes) :
    next (front ++ rest) = .scalar (Char.ofNat scalar) rest := by
  cases sequence with
  | one first =>
      simp only [List.singleton_append, next, UInt8.lt_iff_toNat_lt, UInt8.reduceToNat]
      rw [if_pos first]
  | two least greatest second =>
      simp only [List.cons_append, List.nil_append, next, UInt8.lt_iff_toNat_lt,
        UInt8.le_iff_toNat_le, Bool.and_eq_true, decide_eq_true_eq, UInt8.reduceToNat]
      rw [if_neg (by omega), if_pos ⟨least, greatest⟩, if_pos second]
  | three least greatest second third =>
      simp only [List.cons_append, List.nil_append, next, UInt8.lt_iff_toNat_lt,
        UInt8.le_iff_toNat_le, Bool.and_eq_true, decide_eq_true_eq, UInt8.reduceToNat]
      rw [if_neg (by omega), if_neg (by omega), if_pos ⟨least, greatest⟩, if_pos second,
        if_pos third]
  | four least greatest second third fourth =>
      simp only [List.cons_append, List.nil_append, next, UInt8.lt_iff_toNat_lt,
        UInt8.le_iff_toNat_le, Bool.and_eq_true, decide_eq_true_eq, UInt8.reduceToNat]
      rw [if_neg (by omega), if_neg (by omega), if_neg (by omega), if_pos ⟨least, greatest⟩,
        if_pos second, if_pos third, if_pos fourth]

theorem sequence_of_next (found : next bytes = .scalar char rest) :
    ∃ front scalar, Sequence front scalar ∧ bytes = front ++ rest ∧ char = Char.ofNat scalar := by
  cases bytes with
  | nil => cases found
  | cons a tail =>
      simp only [next, UInt8.lt_iff_toNat_lt, UInt8.le_iff_toNat_le, Bool.and_eq_true,
        decide_eq_true_eq, UInt8.reduceToNat] at found
      split at found
      · next first =>
          cases found
          exact ⟨[a], _, .one first, rfl, rfl⟩
      · split at found
        · next range =>
            repeat' split at found
            all_goals cases found
            next second => exact ⟨_, _, .two range.1 range.2 second, rfl, rfl⟩
        · split at found
          · next range =>
              repeat' split at found
              all_goals cases found
              next second _ _ third =>
                exact ⟨_, _, .three range.1 range.2 second third, rfl, rfl⟩
          · split at found
            · next range =>
                repeat' split at found
                all_goals cases found
                next second _ _ third _ _ fourth =>
                  exact ⟨_, _, .four range.1 range.2 second third fourth, rfl, rfl⟩
            · cases found

/-! ## Sequences as encodings -/

theorem toNat_ofNat_of_isValidChar (valid : scalar.isValidChar) :
    (Char.ofNat scalar).val.toNat = scalar := by
  unfold Char.ofNat
  rw [dif_pos valid]
  rfl

theorem Sequence.isValidChar (sequence : Sequence front scalar) : scalar.isValidChar := by
  unfold Nat.isValidChar
  cases sequence with
  | one first => omega
  | two => unfold tailBits; omega
  | three least greatest second third =>
      rw [isSecondOfThree_iff] at second
      unfold tailBits
      omega
  | four least greatest second third fourth =>
      rw [isSecondOfFour_iff] at second
      unfold tailBits
      omega

theorem ofNat_eq_of_toNat {number : Nat} (same : number = a.toNat) : UInt8.ofNat number = a := by
  rw [same, UInt8.ofNat_toNat]

/-- A sequence is the encoding of its scalar. -/
theorem Sequence.eq_encode (sequence : Sequence front scalar) :
    front = String.utf8EncodeChar (Char.ofNat scalar) := by
  have value := toNat_ofNat_of_isValidChar sequence.isValidChar
  unfold String.utf8EncodeChar
  rw [value]
  dsimp only
  cases sequence with
  | @one a first =>
      rw [if_pos (by omega), UInt8.ofNat_toNat]
  | @two a b least greatest second =>
      rw [isContinuation_iff] at second
      unfold tailBits
      rw [if_neg (by omega), if_pos (by omega), ofNat_eq_of_toNat (a := a) (by omega),
        ofNat_eq_of_toNat (a := b) (by omega)]
  | @three a b c least greatest second third =>
      rw [isSecondOfThree_iff] at second
      rw [isContinuation_iff] at third
      unfold tailBits
      rw [if_neg (by omega), if_neg (by omega), if_pos (by omega),
        ofNat_eq_of_toNat (a := a) (by omega), ofNat_eq_of_toNat (a := b) (by omega),
        ofNat_eq_of_toNat (a := c) (by omega)]
  | @four a b c d least greatest second third fourth =>
      rw [isSecondOfFour_iff] at second
      rw [isContinuation_iff] at third fourth
      unfold tailBits
      rw [if_neg (by omega), if_neg (by omega), if_neg (by omega),
        ofNat_eq_of_toNat (a := a) (by omega), ofNat_eq_of_toNat (a := b) (by omega),
        ofNat_eq_of_toNat (a := c) (by omega), ofNat_eq_of_toNat (a := d) (by omega)]

theorem Sequence.of_eq {other : Nat} (sequence : Sequence front scalar) (same : scalar = other) :
    Sequence front other :=
  same ▸ sequence

/-- The encoding of a scalar is a sequence. -/
theorem sequence_encode (char : Char) :
    Sequence (String.utf8EncodeChar char) char.val.toNat := by
  have valid := char.valid
  unfold UInt32.isValidChar Nat.isValidChar at valid
  unfold String.utf8EncodeChar
  generalize char.val.toNat = value at valid ⊢
  dsimp only
  split
  · refine (Sequence.one ?_).of_eq ?_
    all_goals rw [UInt8.toNat_ofNat']; omega
  · split
    · refine (Sequence.two ?_ ?_ (isContinuation_iff.mpr ?_)).of_eq ?_
      all_goals
        simp only [tailBits, UInt8.toNat_ofNat']
        omega
    · split
      · refine (Sequence.three ?_ ?_ (isSecondOfThree_iff.mpr ?_)
          (isContinuation_iff.mpr ?_)).of_eq ?_
        all_goals
          simp only [tailBits, UInt8.toNat_ofNat']
          omega
      · refine (Sequence.four ?_ ?_ (isSecondOfFour_iff.mpr ?_) (isContinuation_iff.mpr ?_)
          (isContinuation_iff.mpr ?_)).of_eq ?_
        all_goals
          simp only [tailBits, UInt8.toNat_ofNat']
          omega

theorem next_encodeChar (char : Char) (rest : Bytes) :
    next (String.utf8EncodeChar char ++ rest) = .scalar char rest := by
  rw [next_of_sequence (sequence_encode char)]
  exact congrArg (Next.scalar · rest) (Char.ofNat_toNat char)

theorem eq_append_of_next (found : next bytes = .scalar char rest) :
    bytes = String.utf8EncodeChar char ++ rest := by
  obtain ⟨front, scalar, sequence, rfl, rfl⟩ := sequence_of_next found
  rw [sequence.eq_encode]

/-! ## Payloads -/

theorem encode_ofList (chars : List Char) :
    encode (String.ofList chars) = chars.flatMap String.utf8EncodeChar := by
  unfold encode
  rw [String.toList_ofList]

theorem decodeFrom_of_next (found : next bytes = .scalar char rest) (index : Nat) :
    decodeFrom index bytes =
      (decodeFrom (index + char.utf8Size) rest).map (char :: ·) := by
  rw [decodeFrom]
  split
  case h_2 other last same =>
    rw [found] at same
    cases same
    rfl
  all_goals
    next same =>
      rw [found] at same
      cases same

theorem decodeLossyChars_of_next (found : next bytes = .scalar char rest) :
    decodeLossyChars bytes = char :: decodeLossyChars rest := by
  rw [decodeLossyChars]
  split
  case h_2 other last same =>
    rw [found] at same
    cases same
    rfl
  all_goals
    next same =>
      rw [found] at same
      cases same

theorem decodeFrom_encode (chars : List Char) (index : Nat) :
    decodeFrom index (chars.flatMap String.utf8EncodeChar) = .ok chars := by
  induction chars generalizing index with
  | nil =>
      rw [decodeFrom]
      rfl
  | cons char chars ih =>
      rw [List.flatMap_cons, decodeFrom_of_next (next_encodeChar char _), ih]
      rfl

theorem decodeLossyChars_encode (chars : List Char) :
    decodeLossyChars (chars.flatMap String.utf8EncodeChar) = chars := by
  induction chars with
  | nil =>
      rw [decodeLossyChars]
      rfl
  | cons char chars ih =>
      rw [List.flatMap_cons, decodeLossyChars_of_next (next_encodeChar char _), ih]

theorem eq_nil_of_next_finish (found : next bytes = .finish) : bytes = [] := by
  cases bytes with
  | nil => rfl
  | cons a rest =>
      simp only [next] at found
      repeat' split at found
      all_goals cases found

theorem decodeFrom_cases {index : Nat} {chars : List Char}
    (decoded : decodeFrom index bytes = .ok chars) :
    (bytes = [] ∧ chars = []) ∨
      ∃ char rest tail, bytes = String.utf8EncodeChar char ++ rest ∧ chars = char :: tail ∧
        decodeFrom (index + char.utf8Size) rest = .ok tail := by
  rw [decodeFrom] at decoded
  split at decoded
  · next found =>
      cases decoded
      exact Or.inl ⟨eq_nil_of_next_finish found, rfl⟩
  · next char rest found =>
      cases later : decodeFrom (index + char.utf8Size) rest with
      | error malformed =>
          rw [later] at decoded
          cases decoded
      | ok tail =>
          rw [later] at decoded
          cases decoded
          exact Or.inr ⟨char, rest, tail, eq_append_of_next found, rfl, later⟩
  · cases decoded
  · cases decoded

theorem eq_encode_of_decodeFrom {index : Nat} {chars : List Char}
    (decoded : decodeFrom index bytes = .ok chars) :
    bytes = chars.flatMap String.utf8EncodeChar := by
  induction chars generalizing index bytes with
  | nil =>
      rcases decodeFrom_cases decoded with ⟨empty, -⟩ | ⟨_, _, _, -, impossible, -⟩
      · exact empty
      · cases impossible
  | cons char chars ih =>
      rcases decodeFrom_cases decoded with ⟨-, impossible⟩ | ⟨_, rest, _, shape, same, later⟩
      · cases impossible
      · cases same
        rw [shape, ih later, List.flatMap_cons]

/-- A payload is read as a text exactly when it is the encoding of the text. -/
theorem decode_eq_ok_iff : decode bytes = .ok text ↔ bytes = encode text := by
  unfold decode
  constructor
  · intro decoded
    cases found : decodeFrom 0 bytes with
    | error malformed =>
        rw [found] at decoded
        cases decoded
    | ok chars =>
        rw [found] at decoded
        cases decoded
        rw [encode_ofList]
        exact eq_encode_of_decodeFrom found
  · rintro rfl
    rw [encode, decodeFrom_encode]
    exact congrArg Except.ok (String.ofList_toList)

theorem decodeLossy_encode (text : String) : decodeLossy (encode text) = text := by
  rw [decodeLossy, encode, decodeLossyChars_encode, String.ofList_toList]

/-- A payload that is the encoding of a text. -/
def WellFormed (bytes : Bytes) : Prop :=
  ∃ text, bytes = encode text

/-- The standard library means the same by it. -/
theorem wellFormed_iff_isValidUTF8 : WellFormed bytes ↔ bytes.toByteArray.IsValidUTF8 := by
  constructor
  · rintro ⟨text, rfl⟩
    exact ⟨text.toList, rfl⟩
  · rintro ⟨chars, same⟩
    refine ⟨String.ofList chars, ?_⟩
    rw [encode_ofList]
    have equal := congrArg ByteArray.data same
    rw [List.utf8Encode, List.data_toByteArray, List.data_toByteArray] at equal
    exact List.toArray_inj equal

end Text.Utf8

theorem decodeText_eq_ok_iff {bytes : Bytes} {offset : UInt32} {text : String} :
    decodeText bytes offset = .ok text ↔ bytes = Text.Utf8.encode text := by
  rw [← Text.Utf8.decode_eq_ok_iff]
  unfold decodeText
  cases Text.Utf8.decode bytes with
  | ok found => simp
  | error malformed => simp

end WasmBridge
