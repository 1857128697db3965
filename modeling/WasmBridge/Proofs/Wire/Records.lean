import Mathlib.Algebra.Group.Nat.Defs
import WasmBridge.Proofs.Wire.Words
import WasmBridge.Wire.Launch

/-!
# Payloads of words and launch records

A payload of words, a payload of so many words and a launch record are written and read in
the same way: word after word, each with its lowest byte first.  What is read depends on the
length alone whether it is accepted, and each reading undoes the writing.
-/

namespace WasmBridge.Wire

variable {payload : Bytes} {what : String} {count : Nat} {launch : Launch}

/-- Every byte of a payload of words is a digit of one word, in base 256. -/
theorem getElem?_encodeWords (words : List UInt32) (index : Nat) {place : Nat}
    (within : place < 4) :
    (encodeWords words)[4 * index + place]? =
      words[index]?.map fun word => UInt8.ofNat (word.toNat / 256 ^ place) := by
  induction words generalizing index with
  | nil => rfl
  | cons word words ih =>
      rw [encodeWords_cons]
      cases index with
      | zero =>
          rw [List.getElem?_append_left (by rw [length_encodeWord]; omega), encodeWord_eq]
          match place, within with
          | 0, _ => simp
          | 1, _ => rfl
          | 2, _ => rfl
          | 3, _ => rfl
      | succ index =>
          rw [List.getElem?_append_right (by rw [length_encodeWord]; omega), length_encodeWord,
            List.getElem?_cons_succ, ← ih index]
          congr 1
          omega

theorem exists_decodeWords_iff :
    (∃ words, decodeWords payload what = .ok words) ↔ payload.length % 4 = 0 := by
  simp only [decodeWords_eq_ok_iff]
  constructor
  · rintro ⟨words, rfl⟩
    rw [length_encodeWords]
    exact Nat.mul_mod_right 4 words.length
  · exact fun whole => ⟨groupWords payload, (encodeWords_groupWords payload whole).symm⟩

theorem exists_decodeExact_iff :
    (∃ words, decodeExact count payload what = .ok words) ↔ payload.length = 4 * count := by
  simp only [decodeExact_eq_ok_iff]
  constructor
  · rintro ⟨words, rfl, rfl⟩
    exact length_encodeWords words
  · intro length
    have whole := encodeWords_groupWords payload (by omega)
    have counted := length_encodeWords (groupWords payload)
    rw [whole] at counted
    exact ⟨groupWords payload, whole.symm, by omega⟩

/-- So many words are read as words are. -/
theorem decodeExact_eq_ok_iff_of_words {words : List UInt32} :
    decodeExact count payload what = .ok words ↔
      decodeWords payload what = .ok words ∧ payload.length = 4 * count := by
  rw [decodeExact_eq_ok_iff, decodeWords_eq_ok_iff]
  refine and_congr_right fun made => ?_
  rw [made, length_encodeWords]
  omega

namespace Launch

theorem encode_eq (launch : Launch) :
    launch.encode = encodeWords [launch.entry, launch.stackPointer, launch.tlsPointer] := by
  simp only [encode, encodeWords_cons, List.append_assoc]
  simp [encodeWords]

/-- A record is read exactly from what it is written as. -/
theorem decode_eq_ok_iff : decode payload = .ok launch ↔ payload = launch.encode := by
  rw [encode_eq]
  constructor
  · intro decoded
    unfold decode at decoded
    split at decoded
    next entry stackPointer tlsPointer length grouped =>
      cases decoded
      have whole : payload.length = 12 := eq_of_beq length
      rw [← grouped, encodeWords_groupWords payload (by omega)]
    next => cases decoded
  · rintro rfl
    unfold decode
    rw [length_encodeWords, groupWords_encodeWords]
    rfl

theorem exists_decode_iff : (∃ launch, decode payload = .ok launch) ↔ payload.length = 12 := by
  constructor
  · rintro ⟨launch, decoded⟩
    rw [decode_eq_ok_iff.mp decoded, encode_eq, length_encodeWords]
    rfl
  · intro length
    have accepted : ∃ words, decodeExact 3 payload "worker launch record" = .ok words :=
      exists_decodeExact_iff.mpr length
    obtain ⟨words, decoded⟩ := accepted
    obtain ⟨rfl, counted⟩ := decodeExact_eq_ok_iff.mp decoded
    match words, counted with
    | [entry, stackPointer, tlsPointer], _ =>
        exact ⟨_, decode_eq_ok_iff.mpr (encode_eq ⟨entry, stackPointer, tlsPointer⟩).symm⟩

theorem length_encode (launch : Launch) : launch.encode.length = 12 :=
  exists_decode_iff.mp ⟨launch, decode_eq_ok_iff.mpr rfl⟩

end Launch

/-- Words, so many words and launch records are read from exactly what they are written as,
and a payload is accepted by its length alone.  They have the same bytes: the digits of their
words, the lowest first. -/
theorem codecs_agree :
    (∀ words payload what, decodeWords payload what = .ok words ↔ payload = encodeWords words) ∧
      (∀ payload what,
        (∃ words, decodeWords payload what = .ok words) ↔ payload.length % 4 = 0) ∧
      (∀ count words payload what, decodeExact count payload what = .ok words ↔
        decodeWords payload what = .ok words ∧ payload.length = 4 * count) ∧
      (∀ count payload what,
        (∃ words, decodeExact count payload what = .ok words) ↔ payload.length = 4 * count) ∧
      (∀ launch payload, Launch.decode payload = .ok launch ↔ payload = launch.encode) ∧
      (∀ payload, (∃ launch, Launch.decode payload = .ok launch) ↔ payload.length = 12) ∧
      (∀ launch : Launch,
        launch.encode = encodeWords [launch.entry, launch.stackPointer, launch.tlsPointer]) ∧
      ∀ (words : List UInt32) (index : Nat) (place : Fin 4),
        (encodeWords words)[4 * index + place.val]? =
          words[index]?.map fun word => UInt8.ofNat (word.toNat / 256 ^ place.val) :=
  ⟨fun _ _ _ => decodeWords_eq_ok_iff, fun _ _ => exists_decodeWords_iff,
    fun _ _ _ _ => decodeExact_eq_ok_iff_of_words, fun _ _ _ => exists_decodeExact_iff,
    fun _ _ => Launch.decode_eq_ok_iff, fun _ => Launch.exists_decode_iff, Launch.encode_eq,
    fun words index place => getElem?_encodeWords words index place.isLt⟩

end WasmBridge.Wire
