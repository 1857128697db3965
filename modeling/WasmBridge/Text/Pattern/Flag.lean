import WasmBridge.Text.Blank

/-!
# Flags of patterns

A flag changes how the rest of a group is read.  Flags are written as letters; those
after a dash are turned off.
-/

namespace WasmBridge.Text.Pattern

/-- A flag. -/
inductive Flag where
  /-- Letter case does not count. -/
  | anyCase
  /-- A text has lines, each with a start and an end. -/
  | lines
  /-- The dot stands for ends of lines, too. -/
  | everyDot
  /-- Repetition is as seldom as possible, and as often as possible only when it is
  marked. -/
  | seldom
  /-- Characters are those of Unicode, not those of ASCII. -/
  | unicode
  /-- A carriage return ends a line, too. -/
  | carriageReturn
  /-- Blanks and comments may stand between the parts. -/
  | spaced
deriving DecidableEq

/-- The flag of a letter. -/
def Flag.ofChar? : Char → Option Flag
  | 'i' => some .anyCase
  | 'm' => some .lines
  | 's' => some .everyDot
  | 'U' => some .seldom
  | 'u' => some .unicode
  | 'R' => some .carriageReturn
  | 'x' => some .spaced
  | _ => none

/-- The flags that are on. -/
abbrev Flags := List Flag

namespace Flags

/-- The flags at the start of a pattern. -/
def initial : Flags := [.unicode]

/-- Turn a flag on or off. -/
def put (flags : Flags) (flag : Flag) (on : Bool) : Flags :=
  let others := flags.filter (· != flag)
  if on then flag :: others else others

/-- Read flags up to a colon or a closing parenthesis, which stays: what becomes of
each.  No flag comes twice, and there is one dash at most, before some flag. -/
def read? (chosen : List (Flag × Bool)) (negated dangling : Bool) :
    List Char → Option (List (Flag × Bool) × List Char)
  | [] => none
  | char :: rest =>
    if char = ':' || char = ')' then
      if dangling then none else some (chosen, char :: rest)
    else if char = '-' then
      if negated then none else read? chosen true true rest
    else do
      let flag ← Flag.ofChar? char
      if chosen.any (·.1 == flag) then none
      else read? ((flag, !negated) :: chosen) negated false rest

/-- Leave out the blanks and comments at the front of a text, or first the rest of a
`comment`.  A comment goes from a number sign to the end of its line. -/
def skipSpace (comment : Bool) : List Char → List Char
  | [] => []
  | char :: rest =>
    if comment then skipSpace (char != '\n') rest
    else if isBlank char then skipSpace false rest
    else if char = '#' then skipSpace true rest
    else char :: rest

/-- Leave out the blanks and comments at the front of a text, if there may be any. -/
def skip (flags : Flags) (rest : List Char) : List Char :=
  if flags.contains .spaced then skipSpace false rest else rest

/-- A flag is on after it was turned on. -/
theorem contains_put (flags : Flags) (flag : Flag) (on : Bool) :
    (flags.put flag on).contains flag = on := by
  cases on <;> simp [put]

/-- Skipping leaves nothing new. -/
theorem length_skip_le (flags : Flags) (rest : List Char) :
    (flags.skip rest).length ≤ rest.length := by
  have all : ∀ (comment : Bool), (skipSpace comment rest).length ≤ rest.length := by
    induction rest with
    | nil => intro; simp [skipSpace]
    | cons char rest ih =>
      intro comment
      have := ih (char != '\n')
      have := ih false
      have := ih true
      unfold skipSpace
      split <;> try split
      all_goals try split
      all_goals simp only [List.length_cons]; omega
  unfold skip
  split
  · exact all false
  · exact Nat.le_refl _

end Flags

end WasmBridge.Text.Pattern
