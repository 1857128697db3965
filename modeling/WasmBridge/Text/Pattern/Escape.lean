import WasmBridge.Text.Hexadecimal
import WasmBridge.Text.Pattern.Basic
import WasmBridge.Text.Pattern.Flag

/-!
# Escapes in patterns

A backslash takes the meaning of its own from a character, and gives a meaning to
letters.
-/

namespace WasmBridge.Text.Pattern

/-- Named sets of ASCII characters. -/
def namedSets : List (String × CharSet) := [
  ("alnum", ⟨[0x30, 0x3A, 0x41, 0x5B, 0x61, 0x7B]⟩),
  ("alpha", ⟨[0x41, 0x5B, 0x61, 0x7B]⟩),
  ("ascii", ⟨[0, 0x80]⟩),
  ("blank", ⟨[0x09, 0x0A, 0x20, 0x21]⟩),
  ("cntrl", ⟨[0, 0x20, 0x7F, 0x80]⟩),
  ("digit", ⟨[0x30, 0x3A]⟩),
  ("graph", ⟨[0x21, 0x7F]⟩),
  ("lower", ⟨[0x61, 0x7B]⟩),
  ("print", ⟨[0x20, 0x7F]⟩),
  ("punct", ⟨[0x21, 0x30, 0x3A, 0x41, 0x5B, 0x61, 0x7B, 0x7F]⟩),
  ("space", ⟨[0x09, 0x0E, 0x20, 0x21]⟩),
  ("upper", ⟨[0x41, 0x5B]⟩),
  ("word", ⟨[0x30, 0x3A, 0x41, 0x5B, 0x5F, 0x60, 0x61, 0x7B]⟩),
  ("xdigit", ⟨[0x30, 0x3A, 0x41, 0x47, 0x61, 0x67]⟩)]

/-- Whether a character is one of ASCII. -/
def isAscii (char : Char) : Bool := char.toNat < 0x80

/-- What an escape stands for. -/
inductive Escape where
  | scalar (char : Char)
  | set (chars : CharSet)
  | look (look : Look)

namespace Escape

/-- The set of a letter, which is known for ASCII only. -/
def setOf? : Char → Option CharSet
  | 'd' => namedSets.lookup "digit"
  | 's' => namedSets.lookup "space"
  | 'w' => namedSets.lookup "word"
  | _ => none

/-- The control character of a letter. -/
def controlOf? : Char → Option Char
  | 'a' => some '\x07'
  | 'f' => some '\x0c'
  | 'n' => some '\n'
  | 'r' => some '\r'
  | 't' => some '\t'
  | 'v' => some '\x0b'
  | _ => none

/-- The edge of a word that a character asks for, which is known for ASCII only. -/
def edgeOf? : Char → Option Look
  | 'b' => some .wordEdge
  | 'B' => some .noWordEdge
  | '<' => some .wordStart
  | '>' => some .wordEnd
  | _ => none

/-- The number of hexadecimal digits after a letter that gives a code point. -/
def digitsOf? : Char → Option Nat
  | 'x' => some 2
  | 'u' => some 4
  | 'U' => some 8
  | _ => none

/-- Read a number of hexadecimal digits. -/
def readCode? (flags : Flags) (value : Nat) : Nat → List Char → Option (Nat × List Char)
  | 0, rest => some (value, rest)
  | count + 1, rest =>
    match flags.skip rest with
    | [] => none
    | char :: rest => do readCode? flags (16 * value + (← hexValue? char)) count rest

/-- Read a character given by its code point.  Where characters are those of ASCII, two
digits cannot give another one. -/
def readScalar? (flags : Flags) (digits : Nat) (rest : List Char) :
    Option (Escape × List Char) := do
  let (code, rest) ← readCode? flags 0 digits rest
  if digits = 2 && 0x80 ≤ code && !flags.contains .unicode then none
  else if code.isValidChar then some (.scalar (Char.ofNat code), rest)
  else none

/-- What a character stands for after a backslash, if it is not followed by a code
point. -/
def ofChar? (flags : Flags) (char : Char) : Option Escape :=
  if char = 'A' then some (.look .start)
  else if char = 'z' then some (.look .finish)
  else match controlOf? char, setOf? char, edgeOf? char with
    | some control, _, _ => some (.scalar control)
    | none, some chars, _ => if flags.contains .unicode then none else some (.set chars)
    | none, none, some edge => if flags.contains .unicode then none else some (.look edge)
    | none, none, none => if isAscii char && !char.isAlphanum then some (.scalar char) else none

/-- Read an escape after its backslash. -/
def read? (flags : Flags) : List Char → Option (Escape × List Char)
  | [] => none
  | char :: rest =>
    match digitsOf? char with
    | some digits => readScalar? flags digits rest
    | none => (ofChar? flags char).map (·, rest)

/-- A backslash takes the meaning of its own from a mark of ASCII that does not ask for
the edge of a word. -/
theorem ofChar?_mark (flags : Flags) {char : Char} (ascii : isAscii char = true)
    (mark : char.isAlphanum = false) (edge : edgeOf? char = none) :
    ofChar? flags char = some (.scalar char) := by
  have control : controlOf? char = none := by
    unfold controlOf?; split <;> first | rfl | simp [Char.isAlphanum] at mark
  have set : setOf? char = none := by
    unfold setOf?; split <;> first | rfl | simp [Char.isAlphanum] at mark
  have start : char ≠ 'A' := by rintro rfl; simp [Char.isAlphanum] at mark
  have finish : char ≠ 'z' := by rintro rfl; simp [Char.isAlphanum] at mark
  simp [ofChar?, start, finish, control, set, edge, ascii, mark]

end Escape

end WasmBridge.Text.Pattern
