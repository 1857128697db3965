/-!
# UTF-8 over byte lists

Payloads are lists of bytes.  `decode` reads a whole payload as text or says
where the first ill-formed sequence stands and how many bytes it spans;
`decodeLossy` reads any payload and puts one replacement character in the
place of each ill-formed sequence.  Both take one scalar at a time through
`next`, so the refusal of one is the replacement of the other.
-/

namespace WasmBridge

/-- The bytes of a payload, of a file or of a stretch of guest memory. -/
abbrev Bytes := List UInt8

namespace Text.Utf8

/-- The encoding of a text. -/
def encode (text : String) : Bytes :=
  text.toList.flatMap String.utf8EncodeChar

/-- Bytes that continue a sequence without restricting it further. -/
def isContinuation (byte : UInt8) : Bool :=
  0x80 ≤ byte && byte ≤ 0xBF

/-- The second bytes allowed after a first byte of a three-byte sequence. -/
def isSecondOfThree (first second : UInt8) : Bool :=
  if first == 0xE0 then 0xA0 ≤ second && second ≤ 0xBF
  else if first == 0xED then 0x80 ≤ second && second ≤ 0x9F
  else isContinuation second

/-- The second bytes allowed after a first byte of a four-byte sequence. -/
def isSecondOfFour (first second : UInt8) : Bool :=
  if first == 0xF0 then 0x90 ≤ second && second ≤ 0xBF
  else if first == 0xF4 then 0x80 ≤ second && second ≤ 0x8F
  else isContinuation second

/-- The six payload bits of a continuation byte. -/
def tailBits (byte : UInt8) : Nat :=
  byte.toNat % 64

/-- What stands at the front of a byte list. -/
inductive Next where
  /-- Nothing is left. -/
  | finish
  /-- A well-formed scalar and what follows it. -/
  | scalar (char : Char) (rest : Bytes)
  /-- An ill-formed sequence of so many bytes and what follows it. -/
  | broken (length : Nat) (rest : Bytes)
  /-- The list ends inside a sequence that was well-formed so far. -/
  | truncated

/-- Split the first scalar, or the first ill-formed sequence, off the front. -/
def next : Bytes → Next
  | [] => .finish
  | a :: rest =>
    if a < 0x80 then .scalar (Char.ofNat a.toNat) rest
    else if 0xC2 ≤ a && a ≤ 0xDF then
      match rest with
      | [] => .truncated
      | b :: rest₁ =>
        if isContinuation b then
          .scalar (Char.ofNat (a.toNat % 32 * 64 + tailBits b)) rest₁
        else .broken 1 rest
    else if 0xE0 ≤ a && a ≤ 0xEF then
      match rest with
      | [] => .truncated
      | b :: rest₁ =>
        if isSecondOfThree a b then
          match rest₁ with
          | [] => .truncated
          | c :: rest₂ =>
            if isContinuation c then
              .scalar (Char.ofNat ((a.toNat % 16 * 64 + tailBits b) * 64 + tailBits c)) rest₂
            else .broken 2 rest₁
        else .broken 1 rest
    else if 0xF0 ≤ a && a ≤ 0xF4 then
      match rest with
      | [] => .truncated
      | b :: rest₁ =>
        if isSecondOfFour a b then
          match rest₁ with
          | [] => .truncated
          | c :: rest₂ =>
            if isContinuation c then
              match rest₂ with
              | [] => .truncated
              | d :: rest₃ =>
                if isContinuation d then
                  .scalar (Char.ofNat (((a.toNat % 8 * 64 + tailBits b) * 64 + tailBits c) * 64
                    + tailBits d)) rest₃
                else .broken 3 rest₂
            else .broken 2 rest₁
        else .broken 1 rest
    else .broken 1 rest

/-- A scalar takes at least one byte off the front. -/
theorem length_lt_of_next_scalar {bytes rest : Bytes} {char : Char}
    (h : next bytes = .scalar char rest) : rest.length < bytes.length := by
  unfold next at h
  repeat' split at h
  all_goals cases h
  all_goals simp only [List.length_cons]; omega

/-- An ill-formed sequence takes at least one byte off the front. -/
theorem length_lt_of_next_broken {bytes rest : Bytes} {length : Nat}
    (h : next bytes = .broken length rest) : rest.length < bytes.length := by
  unfold next at h
  repeat' split at h
  all_goals cases h
  all_goals simp only [List.length_cons]; omega

/-- Where a payload stops being well-formed: the number of well-formed bytes
before it, and the length of the ill-formed sequence unless the payload simply
ends too early. -/
structure Malformed where
  index : Nat
  length : Option Nat
deriving DecidableEq

/-- The diagnostic that names the place. -/
def Malformed.cause (malformed : Malformed) : String :=
  match malformed.length with
  | some length => s!"invalid utf-8 sequence of {length} bytes from index {malformed.index}"
  | none => s!"incomplete utf-8 byte sequence from index {malformed.index}"

/-- The scalars of a payload that starts at byte `index` of the whole. -/
def decodeFrom (index : Nat) (bytes : Bytes) : Except Malformed (List Char) :=
  match _h : next bytes with
  | .finish => .ok []
  | .scalar char rest =>
    (decodeFrom (index + char.utf8Size) rest).map (char :: ·)
  | .broken length _ => .error ⟨index, some length⟩
  | .truncated => .error ⟨index, none⟩
termination_by bytes.length
decreasing_by exact length_lt_of_next_scalar _h

/-- Read a whole payload as text. -/
def decode (bytes : Bytes) : Except Malformed String :=
  (decodeFrom 0 bytes).map String.ofList

/-- Read a whole payload as text, if it is well-formed. -/
def decode? (bytes : Bytes) : Option String :=
  (decode bytes).toOption

/-- The scalars of a payload, with one replacement character for each
ill-formed sequence. -/
def decodeLossyChars (bytes : Bytes) : List Char :=
  match _h : next bytes with
  | .finish => []
  | .scalar char rest => char :: decodeLossyChars rest
  | .broken _ rest => '\uFFFD' :: decodeLossyChars rest
  | .truncated => ['\uFFFD']
termination_by bytes.length
decreasing_by
  · exact length_lt_of_next_scalar _h
  · exact length_lt_of_next_broken _h

/-- Read any payload as text. -/
def decodeLossy (bytes : Bytes) : String :=
  String.ofList (decodeLossyChars bytes)

end Text.Utf8

end WasmBridge
