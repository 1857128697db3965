import WasmBridge.Text.Pattern.Escape
import WasmBridge.Text.Pattern.Nested

/-!
# Sets between brackets

A set of characters is written between brackets: characters, ranges with a dash, and
sets between brackets of their own, some of which have names.  Operations take
what stands before them as their left side.
-/

namespace WasmBridge.Text.Pattern

/-- The operations on sets. -/
inductive SetOperation where
  | intersection
  | difference
  | symmetricDifference

/-- The set of an operation. -/
def SetOperation.apply : SetOperation → CharSet → CharSet → CharSet
  | intersection => .combine and
  | difference => .combine fun first second => first && !second
  | symmetricDifference => .combine xor

/-- A set between brackets, as far as it was read. -/
structure Brackets where
  negated : Bool := false
  /-- Whether nothing but dashes was read. -/
  fresh : Bool := true
  /-- The operation that was read last, with its left side. -/
  left : Option (SetOperation × Nested CharSet) := none
  /-- What was read since, the last one first. -/
  items : List (Nested CharSet) := []

namespace Brackets

/-- Add something that was read. -/
def add (brackets : Brackets) (item : Nested CharSet) : Brackets :=
  { brackets with items := item :: brackets.items, fresh := false }

/-- The set of all that was read since the last operation. -/
def operand (flags : Flags) (brackets : Brackets) : Nested CharSet :=
  let chars := brackets.items.foldl (fun all item => all.union item.value) .empty
  { value := if flags.contains .anyCase && !flags.contains .unicode then chars.withCases else chars
    depth := Nested.depthOf brackets.items }

/-- The set of all that was read. -/
def inside (flags : Flags) (brackets : Brackets) : Nested CharSet :=
  let right := brackets.operand flags
  match brackets.left with
  | none => right
  | some (operation, left) =>
    { value := operation.apply left.value right.value, depth := Nested.depthOf [left, right] }

/-- Take what was read as the left side of an operation. -/
def operate (flags : Flags) (brackets : Brackets) (operation : SetOperation) : Brackets :=
  { brackets with
    left := some (operation, brackets.inside flags), items := [], fresh := false }

/-- What is not in a set, or what is.  Of ASCII alone there is no complement. -/
def negate? (flags : Flags) (negated : Bool) (chars : CharSet) : Option CharSet :=
  if !negated then some chars
  else if flags.contains .unicode then some chars.complement
  else none

/-- The set that was read. -/
def close? (flags : Flags) (brackets : Brackets) : Option (Nested CharSet) := do
  let inside := brackets.inside flags
  return { value := ← negate? flags brackets.negated inside.value, depth := inside.depth + 1 }

/-- A range.  The letter case of Unicode is not known. -/
def range? (flags : Flags) (first last : Char) : Option CharSet :=
  if last < first then none
  else if flags.contains .unicode then
    if flags.contains .anyCase then none else some (.range first last)
  else if isAscii last then some (.range first last)
  else none

/-- The set of a name, as it is, negated or not. -/
def named? (flags : Flags) (negated : Bool) (chars : CharSet) : Option CharSet :=
  if flags.contains .unicode && flags.contains .anyCase then none
  else negate? flags negated chars

/-- Read the name of a set between colons, after its bracket. -/
def readName? : List Char → Option (Bool × CharSet × List Char)
  | ':' :: rest =>
    let (negated, rest) := match rest with
      | '^' :: rest => (true, rest)
      | rest => (false, rest)
    match rest.dropWhile (· != ':') with
    | ':' :: ']' :: after =>
      (namedSets.lookup (String.ofList (rest.takeWhile (· != ':')))).map (negated, ·, after)
    | _ => none
  | _ => none

/-- Read one end of a range. -/
def readEnd? (flags : Flags) : List Char → Option (Escape × List Char)
  | [] => none
  | '\\' :: rest => Escape.read? flags rest
  | char :: rest => some (.scalar char, rest)

/-- The character after a dash that tells whether it is that of a range. -/
def peek (flags : Flags) (rest : List Char) : Option Char :=
  if flags.contains .spaced then
    match rest.dropWhile isBlank with
    | '#' :: rest => (rest.dropWhile isBlank).head?
    | rest => rest.head?
  else rest.head?

/-- The set of something that is not part of a range. -/
def alone? (flags : Flags) : Escape → Option CharSet
  | .scalar char => range? flags char char
  | .set chars => some chars
  | .look _ => none

/-- Read a character, a set or a range of characters.  A dash before a dash or before
the closing bracket is that of no range. -/
def readItem? (flags : Flags) (rest : List Char) : Option (CharSet × List Char) := do
  let (first, rest) ← readEnd? flags rest
  match flags.skip rest with
  | '-' :: after =>
    if peek flags after = some '-' || peek flags after = some ']' then
      return (← alone? flags first, '-' :: after)
    else
      let (last, rest) ← readEnd? flags (flags.skip after)
      match first, last with
      | .scalar first, .scalar last => return (← range? flags first last, rest)
      | _, _ => none
  | rest => return (← alone? flags first, rest)

/-- Read the start of a set, after its bracket. -/
def start (flags : Flags) (rest : List Char) : Brackets × List Char :=
  match flags.skip rest with
  | '^' :: rest => ({ negated := true }, rest)
  | rest => ({}, rest)

/-- Read on in a set that stands in `outer` ones, the innermost first, in at most
`fuel` steps. -/
def readOn? (flags : Flags) :
    Nat → Brackets → List Brackets → List Char → Option (Nested CharSet × List Char)
  | 0, _, _, _ => none
  | fuel + 1, brackets, outer, rest =>
    match flags.skip rest with
    | [] => none
    | '[' :: rest =>
      match readName? rest with
      | some (negated, chars, rest) => do
        readOn? flags fuel (brackets.add { value := ← named? flags negated chars }) outer rest
      | none =>
        let (inner, rest) := start flags rest
        readOn? flags fuel inner (brackets :: outer) rest
    | ']' :: rest =>
      if brackets.fresh && brackets.items.isEmpty then do
        readOn? flags fuel (brackets.add { value := ← range? flags ']' ']' }) outer rest
      else do
        let closed ← brackets.close? flags
        match outer with
        | [] => some (closed, rest)
        | parent :: outer => readOn? flags fuel (parent.add closed) outer rest
    | char :: rest =>
      if brackets.fresh && char == '-' then do
        let dash ← range? flags '-' '-'
        readOn? flags fuel { brackets.add { value := dash } with fresh := true } outer rest
      else match char, rest with
        | '&', '&' :: rest =>
          readOn? flags fuel (brackets.operate flags .intersection) outer rest
        | '-', '-' :: rest => readOn? flags fuel (brackets.operate flags .difference) outer rest
        | '~', '~' :: rest =>
          readOn? flags fuel (brackets.operate flags .symmetricDifference) outer rest
        | char, rest => do
          let (chars, rest) ← readItem? flags (char :: rest)
          readOn? flags fuel (brackets.add { value := chars }) outer rest

/-- Read a set after its bracket. -/
def read? (flags : Flags) (rest : List Char) : Option (Nested CharSet × List Char) :=
  let (brackets, rest) := start flags rest
  readOn? flags (rest.length + 1) brackets [] rest

/-- A range contains its ends. -/
theorem contains_range? {flags : Flags} {first last : Char} {chars : CharSet}
    (h : range? flags first last = some chars) :
    chars.contains first = true ∧ chars.contains last = true := by
  have ordered : first.toNat ≤ last.toNat := by
    unfold range? at h
    split at h
    · simp at h
    · next ordered =>
      simp only [Char.lt_def, UInt32.lt_iff_toNat_lt, Nat.not_lt] at ordered
      exact ordered
  have : chars = .range first last := by
    unfold range? at h
    split at h <;> try split at h
    all_goals try split at h
    all_goals simp at h
    all_goals exact h.symm
  rw [this, CharSet.contains_range, CharSet.contains_range]
  simp [ordered]

end Brackets

end WasmBridge.Text.Pattern
