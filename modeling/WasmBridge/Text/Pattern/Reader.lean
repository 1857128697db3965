import WasmBridge.Text.Alphanumeric
import WasmBridge.Text.Pattern.Brackets

/-!
# Reading patterns

`read?` reads the written form of a pattern.  Groups stand between parentheses,
alternatives are divided by bars, and marks after a part repeat it.
-/

namespace WasmBridge.Text.Pattern

/-- A group, as far as it was read. -/
structure Group where
  /-- Its number, if it has one. -/
  number : Option Nat := none
  /-- The flags outside of it. -/
  outside : Flags := .initial
  /-- The alternatives before the one that is being read, the last one first. -/
  before : List (Nested Pattern) := []
  /-- The parts of that one, the last one first; `none` stands for a change of flags. -/
  parts : List (Option (Nested Pattern)) := []

namespace Group

/-- The alternative that is being read. -/
def last (group : Group) : Nested Pattern where
  value := join (group.parts.reverse.filterMap (·.map Nested.value))
  depth := Nested.depthOf (group.parts.map (·.getD { value := empty }))

/-- What was read in a group. -/
def inside (group : Group) : Nested Pattern :=
  match group.before with
  | [] => group.last
  | before =>
    let all := group.last :: before
    { value := alternatives (all.reverse.map Nested.value), depth := Nested.depthOf all }

/-- The pattern of a group. -/
def close (group : Group) : Nested Pattern :=
  let inside := group.inside.deeper
  match group.number with
  | none => inside
  | some number => { inside with value := .group number inside.value }

end Group

/-- A pattern, as far as it was read. -/
structure Reader where
  flags : Flags := .initial
  group : Group := {}
  /-- The groups that this one stands in, the innermost first. -/
  outer : List Group := []
  /-- How many groups have numbers. -/
  numbered : Nat := 0
  /-- The names of groups. -/
  names : List String := []

namespace Reader

/-- Add a part. -/
def addNested (reader : Reader) (part : Nested Pattern) : Reader :=
  { reader with group := { reader.group with parts := some part :: reader.group.parts } }

/-- Add a part in which nothing is nested. -/
def add (reader : Reader) (part : Pattern) : Reader :=
  reader.addNested { value := part }

/-- Whether a name may hold a character, as its first one or later. -/
def isNameChar (first : Bool) (char : Char) : Bool :=
  char == '_' ||
    if first then isAlphabetic char
    else char == '.' || char == '[' || char == ']' || isAlphanumeric char

/-- Whether a group may have a name. -/
def isName : List Char → Bool
  | [] => false
  | first :: rest => isNameChar true first && rest.all (isNameChar false)

/-- Start a group inside of which other flags may be on. -/
def startGroup (reader : Reader) (number : Option Nat) (flags : Flags) : Reader :=
  { reader with
    flags
    group := { number, outside := reader.flags }
    outer := reader.group :: reader.outer }

/-- Start a group with a number. -/
def startNumbered (reader : Reader) : Reader :=
  { reader.startGroup (some (reader.numbered + 1)) reader.flags with
    numbered := reader.numbered + 1 }

/-- Read the name of a group and start it.  No two groups have one name. -/
def startNamed? (reader : Reader) (rest : List Char) : Option (Reader × List Char) :=
  let name := rest.takeWhile (· != '>')
  let text := String.ofList name
  match rest.dropWhile (· != '>') with
  | _ :: rest =>
    if isName name && !reader.names.contains text then
      some ({ reader.startNumbered with names := text :: reader.names }, rest)
    else none
  | [] => none

/-- Read flags: those of a group, or those of the rest of this one. -/
def readFlags? (reader : Reader) (rest : List Char) : Option (Reader × List Char) := do
  let (chosen, rest) ← Flags.read? [] false false rest
  let flags := chosen.foldl (fun flags (flag, on) => flags.put flag on) reader.flags
  match rest with
  | ':' :: rest => return (reader.startGroup none flags, rest)
  | _ :: rest =>
    if chosen.isEmpty then none
    else
      return ({ reader with
        flags, group := { reader.group with parts := none :: reader.group.parts } }, rest)
  | [] => none

/-- Read what follows an opening parenthesis. -/
def readOpening? (reader : Reader) (rest : List Char) : Option (Reader × List Char) :=
  match reader.flags.skip rest with
  | '?' :: 'P' :: '<' :: rest | '?' :: '<' :: rest => reader.startNamed? rest
  | '?' :: rest => reader.readFlags? rest
  | rest => some (reader.startNumbered, rest)

/-- Leave a group. -/
def closeGroup? (reader : Reader) : Option Reader :=
  match reader.outer with
  | [] => none
  | group :: outer =>
    some ({ reader with flags := reader.group.outside, group, outer }.addNested
      reader.group.close)

/-- Start another alternative. -/
def startAlternative (reader : Reader) : Reader :=
  { reader with
    group := { reader.group with before := reader.group.last :: reader.group.before, parts := [] } }

/-- Repeat the last part, and read the mark that changes the preference. -/
def repeatLast? (reader : Reader) (count : Count) (rest : List Char) :
    Option (Reader × List Char) :=
  let (marked, rest) := match rest with
    | '?' :: rest => (true, rest)
    | rest => (false, rest)
  match reader.group.parts with
  | some part :: before =>
    let body := repeatAs count (marked == reader.flags.contains .seldom) part.value
    some ({ reader with
      group := { reader.group with
        parts := some { value := body, depth := part.depth + 1 } :: before } }, rest)
  | _ => none

/-- The pattern of a character.  The letter case of Unicode is not known. -/
def literal? (flags : Flags) (char : Char) : Option Pattern :=
  if !flags.contains .anyCase then some (literal [char])
  else if flags.contains .unicode then none
  else some (ofSet (CharSet.singleton char).withCases false)

/-- The pattern of the dot, which is known for Unicode only. -/
def dot? (flags : Flags) : Option Pattern :=
  if !flags.contains .unicode then none
  else if flags.contains .everyDot then some (set .full true)
  else
    let feed := CharSet.singleton '\n'
    let ends := if flags.contains .carriageReturn then feed.union (.singleton '\r') else feed
    some (set ends.complement true)

/-- What is asked by a circumflex. -/
def circumflex (flags : Flags) : Look :=
  if !flags.contains .lines then .start
  else if flags.contains .carriageReturn then .anyLineStart
  else .lineStart

/-- What is asked by a dollar sign. -/
def dollar (flags : Flags) : Look :=
  if !flags.contains .lines then .finish
  else if flags.contains .carriageReturn then .anyLineEnd
  else .lineEnd

/-- The pattern of an escape. -/
def ofEscape? (flags : Flags) : Escape → Option Pattern
  | .scalar char => literal? flags char
  | .set chars => some (ofSet chars false)
  | .look asked => some (.look asked)

/-- Read what begins with a character. -/
def read? (reader : Reader) (char : Char) (rest : List Char) : Option (Reader × List Char) :=
  match char with
  | '(' => reader.readOpening? rest
  | ')' => reader.closeGroup?.map (·, rest)
  | '|' => some (reader.startAlternative, rest)
  | '?' => reader.repeatLast? .atMostOnce rest
  | '*' => reader.repeatLast? .anyNumber rest
  | '+' => reader.repeatLast? .atLeastOnce rest
  | '\x7b' => none
  | '.' => (dot? reader.flags).map (reader.add ·, rest)
  | '^' => some (reader.add (.look (circumflex reader.flags)), rest)
  | '$' => some (reader.add (.look (dollar reader.flags)), rest)
  | '[' => do
    let (chars, rest) ← Brackets.read? reader.flags rest
    let part := ofSet chars.value (reader.flags.contains .unicode)
    return (reader.addNested { value := part, depth := chars.depth }, rest)
  | '\\' => do
    let (escape, rest) ← Escape.read? reader.flags rest
    return (reader.add (← ofEscape? reader.flags escape), rest)
  | char => (literal? reader.flags char).map (reader.add ·, rest)

/-- Read a text to its end in at most `fuel` steps. -/
def readAll? : Nat → Reader → List Char → Option Reader
  | 0, _, _ => none
  | fuel + 1, reader, rest =>
    match reader.flags.skip rest with
    | [] => some reader
    | char :: rest => do
      let (reader, rest) ← reader.read? char rest
      readAll? fuel reader rest

end Reader

/-- How deep the parts of a pattern may be nested. -/
def greatestDepth : Nat := 250

/-- Read a pattern. -/
def read? (text : String) : Option Pattern := do
  let reader ← Reader.readAll? (text.length + 1) {} text.toList
  let whole := reader.group.inside
  if reader.outer.isEmpty && whole.depth ≤ greatestDepth then some whole.value else none

/-- The empty text is the pattern of nothing. -/
theorem read?_empty : read? "" = some empty := rfl

end WasmBridge.Text.Pattern
