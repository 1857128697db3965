import WasmBridge.Text.CharSet

/-!
# Patterns of texts

A pattern says what a part of a text looks like.  Where it leaves a choice, one way
is preferred to another.

Patterns are put together by `join`, `alternatives` and `repeatAs`, which keep
them in a normal form: sequences and choices are nested to the right, adjacent
literals are one, a choice between single characters is a set, and what all
branches of a choice begin with stands before the choice.  The last of these
matters where the common front itself leaves a choice: that one is then preferred
to the choice of the branch.
-/

namespace WasmBridge.Text

/-- What can be asked about a place in a text without reading a character. -/
inductive Look where
  /-- It is the start of the text. -/
  | start
  /-- It is the end of the text. -/
  | finish
  /-- It is the start of a line; lines end in a line feed. -/
  | lineStart
  /-- It is the end of a line; lines end in a line feed. -/
  | lineEnd
  /-- It is the start of a line; lines end in a carriage return, a line feed or both. -/
  | anyLineStart
  /-- It is the end of a line; lines end in a carriage return, a line feed or both. -/
  | anyLineEnd
  /-- A word of ASCII letters, digits and underscores begins or ends. -/
  | wordEdge
  /-- No word begins or ends. -/
  | noWordEdge
  /-- A word begins. -/
  | wordStart
  /-- A word ends. -/
  | wordEnd
deriving DecidableEq

/-- How often something may be repeated. -/
inductive Count where
  | atMostOnce
  | anyNumber
  | atLeastOnce
deriving DecidableEq

/-- A pattern. -/
inductive Pattern where
  /-- Nothing. -/
  | empty
  /-- These characters. -/
  | literal (text : List Char)
  /-- One character of a set, which was read with Unicode in mind or not. -/
  | set (chars : CharSet) (unicode : Bool)
  | look (look : Look)
  /-- A group, with its number. -/
  | group (number : Nat) (body : Pattern)
  /-- Repetition, as often as possible or, if not `greedy`, as seldom as possible. -/
  | repetition (count : Count) (greedy : Bool) (body : Pattern)
  | sequence (first second : Pattern)
  /-- One of two patterns, rather the first. -/
  | either (first second : Pattern)
deriving DecidableEq

namespace Pattern

/-- What fits nowhere. -/
def never : Pattern := set .empty false

/-- One character of a set. -/
def ofSet (chars : CharSet) (unicode : Bool) : Pattern :=
  if chars = .empty then never
  else match chars.only? with
    | some char => literal [char]
    | none => set chars unicode

/-- What stands one after another in a pattern. -/
def parts : Pattern → List Pattern
  | empty => []
  | sequence first second => parts first ++ parts second
  | pattern => [pattern]

/-- The branches of a choice, the preferred one first. -/
def branches : Pattern → List Pattern
  | either first second => branches first ++ branches second
  | pattern => [pattern]

/-- Parts with adjacent literals made one. -/
def mergeLiterals : List Pattern → List Pattern
  | literal text :: rest =>
    match mergeLiterals rest with
    | literal more :: rest => literal (text ++ more) :: rest
    | rest => literal text :: rest
  | part :: rest => part :: mergeLiterals rest
  | [] => []

/-- A sequence of parts. -/
def ofParts : List Pattern → Pattern
  | [] => empty
  | [part] => part
  | part :: rest => sequence part (ofParts rest)

/-- A choice between branches. -/
def ofBranches : List Pattern → Pattern
  | [] => never
  | [branch] => branch
  | branch :: rest => either branch (ofBranches rest)

/-- One pattern after another. -/
def join (patterns : List Pattern) : Pattern :=
  ofParts (mergeLiterals (patterns.flatMap parts))

/-- The character that a pattern is. -/
def char? : Pattern → Option Char
  | literal [char] => some char
  | _ => none

/-- The set that a pattern is. -/
def set? : Pattern → Option CharSet
  | set chars _ => some chars
  | _ => none

/-- A choice between branches, none of which is a choice. -/
def oneOf (branches : List Pattern) : Pattern :=
  match branches.mapM char?, branches.mapM set? with
  | some chars, _ => ofSet ((chars.map .singleton).foldl .union .empty) true
  | none, some sets => ofSet (sets.foldl .union .empty) true
  | none, none => ofBranches branches

/-- What two lists begin with. -/
def commonFront : List Pattern → List Pattern → List Pattern
  | first :: firsts, second :: seconds =>
    if first = second then first :: commonFront firsts seconds else []
  | _, _ => []

/-- What all of some branches begin with, if each has several parts. -/
def sharedFront (branches : List Pattern) : List Pattern :=
  match branches.map parts with
  | [] => []
  | first :: others =>
    if (first :: others).all fun parts => 1 < parts.length then others.foldl commonFront first
    else []

/-- One of some patterns, rather an earlier one. -/
def alternatives (patterns : List Pattern) : Pattern :=
  let all := patterns.flatMap branches
  let front := sharedFront all
  if front.isEmpty then oneOf all
  else
    let tails := all.map fun branch => ofParts (branch.parts.drop front.length)
    join (front ++ [oneOf (tails.flatMap branches)])

/-- Whether a pattern takes no character. -/
def takesNothing : Pattern → Bool
  | empty | look _ => true
  | literal _ | set _ _ => false
  | group _ body | repetition _ _ body => body.takesNothing
  | sequence first second | either first second => first.takesNothing && second.takesNothing

/-- Whether a pattern takes a character wherever it fits. -/
def takesSome : Pattern → Bool
  | empty | look _ => false
  | literal text => !text.isEmpty
  | set _ _ => true
  | group _ body | repetition .atLeastOnce _ body => body.takesSome
  | repetition _ _ _ => false
  | sequence first second => first.takesSome || second.takesSome
  | either first second => first.takesSome && second.takesSome

/-- Something repeated.  What takes no character is not repeated more than once. -/
def repeatAs (count : Count) (greedy : Bool) (body : Pattern) : Pattern :=
  if body.takesNothing then
    match count with
    | .atLeastOnce => body
    | .atMostOnce | .anyNumber => repetition .atMostOnce greedy body
  else repetition count greedy body

/-- What takes no character takes none wherever it fits. -/
theorem takesSome_eq_false {pattern : Pattern} (h : pattern.takesNothing = true) :
    pattern.takesSome = false := by
  induction pattern with
  | empty | look => rfl
  | literal | set => simp [takesNothing] at h
  | group _ _ ih => exact ih h
  | repetition count _ _ ih => cases count <;> first | rfl | exact ih h
  | sequence _ _ first second | either _ _ first second =>
    simp only [takesNothing, Bool.and_eq_true] at h
    simp [takesSome, first h.1, second h.2]

end Pattern

end WasmBridge.Text
