import WasmBridge.Fault

/-!
# Words on the wire

A payload of words is the concatenation of their four-byte little-endian forms.
`decodeWords` takes exactly the payloads whose length is a multiple of four, and
`decodeExact` those of one length.
-/

namespace WasmBridge.Wire

/-- The four bytes of a word, least significant first. -/
def encodeWord (word : UInt32) : Bytes :=
  [word.toUInt8, (word >>> 8).toUInt8, (word >>> 16).toUInt8, (word >>> 24).toUInt8]

/-- The word of four bytes, least significant first. -/
def decodeWord (a b c d : UInt8) : UInt32 :=
  a.toUInt32 ||| b.toUInt32 <<< 8 ||| c.toUInt32 <<< 16 ||| d.toUInt32 <<< 24

/-- The payload of a list of words. -/
def encodeWords (words : List UInt32) : Bytes :=
  words.flatMap encodeWord

/-- The words of the whole groups of four bytes. -/
def groupWords : Bytes → List UInt32
  | a :: b :: c :: d :: rest => decodeWord a b c d :: groupWords rest
  | _ => []

/-- The least multiple of four at or above a length. -/
def paddedLength (length : Nat) : Nat :=
  (length + 3) / 4 * 4

/-- Split a payload into words; `what` names the payload in the fault. -/
def decodeWords (payload : Bytes) (what : String) : Except Fault (List UInt32) :=
  if payload.length % 4 = 0 then .ok (groupWords payload)
  else .error (.malformedPayload what (paddedLength payload.length) payload.length)

/-- Split a payload into exactly `count` words. -/
def decodeExact (count : Nat) (payload : Bytes) (what : String) : Except Fault (List UInt32) := do
  let words ← decodeWords payload what
  if words.length = count then return words
  else throw (.malformedPayload what (count * 4) payload.length)

/-- The word of a payload of one word. -/
def decodeOne (payload : Bytes) (what : String) : Except Fault UInt32 := do
  let words ← decodeExact 1 payload what
  return words.headD 0

/-- The words of a payload of two words. -/
def decodeTwo (payload : Bytes) (what : String) : Except Fault (UInt32 × UInt32) := do
  let words ← decodeExact 2 payload what
  return (words.getD 0 0, words.getD 1 0)

end WasmBridge.Wire
