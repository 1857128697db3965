import WasmBridge.Proofs.Wire.Records

/-!
# Payloads of a wrong length

Words, so many words and launch records are refused for the length of the payload alone, and
the fault names that length and one that was expected.  A payload of the expected length is
accepted, unless so many words were asked for of a payload that is not even made of words:
then the fault names the next length that words have, however many were asked for.
-/

namespace WasmBridge.Wire

variable {α : Type} {payload : Bytes} {what : String} {count : Nat} {fault : Fault}

/-- Every payload of a length is accepted. -/
def Accepts (decode : Bytes → Except Fault α) (length : Nat) : Prop :=
  ∀ payload : Bytes, payload.length = length → ∃ value, decode payload = .ok value

/-- The length that is expected when so many words are not found in a payload. -/
def expectedLength (count length : Nat) : Nat :=
  if length % 4 = 0 then 4 * count else paddedLength length

/-! ## Refusals -/

theorem decodeWords_eq_error_iff :
    decodeWords payload what = .error fault ↔ payload.length % 4 ≠ 0 ∧
      fault = .malformedPayload what (paddedLength payload.length) payload.length := by
  unfold decodeWords
  split
  next whole => simp [whole]
  next broken => simp [broken, eq_comm]

theorem decodeExact_eq_error_iff :
    decodeExact count payload what = .error fault ↔ payload.length ≠ 4 * count ∧
      fault = .malformedPayload what (expectedLength count payload.length) payload.length := by
  unfold expectedLength
  by_cases whole : payload.length % 4 = 0
  · obtain ⟨words, decoded⟩ : ∃ words, decodeWords payload what = .ok words :=
      exists_decodeWords_iff.mpr whole
    have length : payload.length = 4 * words.length := by
      rw [decodeWords_eq_ok_iff.mp decoded, length_encodeWords]
    have counted : words.length = count ↔ payload.length = 4 * count := by omega
    have opened : decodeExact count payload what =
        if words.length = count then .ok words
        else .error (.malformedPayload what (count * 4) payload.length) := by
      unfold decodeExact
      rw [decoded]
      rfl
    rw [opened, if_pos whole, Nat.mul_comm 4 count]
    split
    next same => simp [counted.mp same, Nat.mul_comm]
    next other =>
      have different : payload.length ≠ count * 4 := by omega
      simp [different, eq_comm]
  · have broken : decodeWords payload what =
        .error (.malformedPayload what (paddedLength payload.length) payload.length) :=
      decodeWords_eq_error_iff.mpr ⟨whole, rfl⟩
    have opened : decodeExact count payload what =
        .error (.malformedPayload what (paddedLength payload.length) payload.length) := by
      unfold decodeExact
      rw [broken]
      rfl
    have different : payload.length ≠ 4 * count := by omega
    rw [opened, if_neg whole]
    simp [different, eq_comm]

theorem Launch.decode_eq_error_iff :
    Launch.decode payload = .error fault ↔ payload.length ≠ 12 ∧
      fault = .malformedPayload "worker launch record" 12 payload.length := by
  by_cases length : payload.length = 12
  · obtain ⟨launch, decoded⟩ := Launch.exists_decode_iff.mpr length
    simp [decoded, length]
  · have refused : Launch.decode payload =
        .error (.malformedPayload "worker launch record" 12 payload.length) := by
      have differs : (payload.length == Launch.encodedLength) = false :=
        beq_eq_false_iff_ne.mpr length
      unfold Launch.decode
      rw [differs]
      rfl
    simp [refused, length, eq_comm]

/-! ## Lengths that are accepted -/

theorem accepts_decodeWords (length : Nat) :
    Accepts (decodeWords · what) (paddedLength length) := by
  intro payload padded
  refine exists_decodeWords_iff.mpr ?_
  unfold paddedLength at padded
  omega

theorem Launch.accepts_decode : Accepts Launch.decode 12 :=
  fun _ length => Launch.exists_decode_iff.mpr length

theorem accepts_decodeExact_iff {length : Nat} :
    Accepts (decodeExact count · what) length ↔ length = 4 * count := by
  constructor
  · intro accepts
    have sample : (List.replicate length (0 : UInt8)).length = length := List.length_replicate
    exact sample ▸ exists_decodeExact_iff.mp (accepts _ sample)
  · rintro rfl payload length
    exact exists_decodeExact_iff.mpr length

theorem expectedLength_eq_iff {length : Nat} :
    expectedLength count length = 4 * count ↔
      length % 4 = 0 ∨ paddedLength length = 4 * count := by
  unfold expectedLength
  split
  next whole => simp [whole]
  next broken => simp [broken]

/--
Each fault names the length of the payload.  The expected length that it names is accepted
where words are asked for, however many, and it is 12 for launch records.  Where so many
words are asked for it is accepted exactly when it is theirs, and that is exactly when the
payload is made of words or is short of so many words by less than one.
-/
theorem refusals_name_lengths (payload : Bytes) (what : String) (count : Nat) (fault : Fault) :
    (decodeWords payload what = .error fault →
      ∃ expected, fault = .malformedPayload what expected payload.length ∧
        Accepts (decodeWords · what) expected) ∧
    (Launch.decode payload = .error fault →
      fault = .malformedPayload "worker launch record" 12 payload.length ∧
        Accepts Launch.decode 12) ∧
    (decodeExact count payload what = .error fault →
      ∃ expected, fault = .malformedPayload what expected payload.length ∧
        (Accepts (decodeExact count · what) expected ↔ expected = 4 * count) ∧
        (expected = 4 * count ↔
          payload.length % 4 = 0 ∨ paddedLength payload.length = 4 * count)) := by
  refine ⟨fun refused => ?_, fun refused => ?_, fun refused => ?_⟩
  · exact ⟨_, (decodeWords_eq_error_iff.mp refused).2, accepts_decodeWords _⟩
  · exact ⟨(Launch.decode_eq_error_iff.mp refused).2, Launch.accepts_decode⟩
  · exact ⟨_, (decodeExact_eq_error_iff.mp refused).2, accepts_decodeExact_iff,
      expectedLength_eq_iff⟩

/-- Seven bytes are refused as two words with the length of two words. -/
theorem refusals_name_lengths_of_two :
    decodeExact 2 [1, 0, 0, 0, 2, 0, 0] "property lookup" =
        .error (.malformedPayload "property lookup" 8 7) ∧
      Accepts (decodeExact 2 · "property lookup") 8 := by
  have refused : decodeExact 2 [1, 0, 0, 0, 2, 0, 0] "property lookup" =
      .error (.malformedPayload "property lookup" 8 7) := rfl
  obtain ⟨expected, named, accepted, -⟩ := (refusals_name_lengths _ _ _ _).2.2 refused
  cases named
  exact ⟨refused, accepted.mpr rfl⟩

/-- Five bytes are refused as one word with the length of two, which is refused as well. -/
theorem expected_length_is_refused :
    decodeExact 1 [1, 0, 0, 0, 2] "release" = .error (.malformedPayload "release" 8 5) ∧
      decodeExact 1 [1, 0, 0, 0, 2, 0, 0, 0] "release" =
        .error (.malformedPayload "release" 4 8) ∧
      ¬ Accepts (decodeExact 1 · "release") 8 := by
  refine ⟨rfl, rfl, fun accepts => ?_⟩
  have same : 8 = 4 * 1 := accepts_decodeExact_iff.mp accepts
  exact absurd same (by decide)

end WasmBridge.Wire
