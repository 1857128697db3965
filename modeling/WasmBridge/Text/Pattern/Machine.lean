import WasmBridge.Text.Pattern.Basic

/-!
# Machines of patterns

A pattern is tried on a text by a machine, which reads the text once and is in
several places at a time, the preferred one first.  A place is entered once for each
character, by the most preferred way to it.  `fits` says whether the most preferred
part of a text that a pattern fits, of those that begin first, ends where the text
ends.
-/

namespace WasmBridge.Text

/-- Whether a character belongs to a word. -/
def isWordChar (char : Char) : Bool :=
  char.isAlphanum || char == '_'

/-- Whether something can be said about a place between two characters, or one of the
ends of the text. -/
def Look.holds (before next : Option Char) (look : Look) : Bool :=
  let wordBefore := before.any isWordChar
  let wordNext := next.any isWordChar
  match look with
  | .start => before.isNone
  | .finish => next.isNone
  | .lineStart => before.isNone || before == some '\n'
  | .lineEnd => next.isNone || next == some '\n'
  | .anyLineStart =>
    before.isNone || before == some '\n' || before == some '\r' && next != some '\n'
  | .anyLineEnd =>
    next.isNone || next == some '\r' || next == some '\n' && before != some '\r'
  | .wordEdge => wordBefore != wordNext
  | .noWordEdge => wordBefore == wordNext
  | .wordStart => !wordBefore && wordNext
  | .wordEnd => wordBefore && !wordNext

namespace Pattern

/-- What is done at a place of a machine. -/
inductive Node where
  /-- Read a character of a set and go on. -/
  | read (chars : CharSet) (next : Nat)
  /-- Go on if something can be said about the place in the text. -/
  | look (look : Look) (next : Nat)
  /-- Go on at two places, rather the first. -/
  | fork (first second : Nat)
  /-- The pattern fits up to here. -/
  | accept

/-- A fork that rather goes in than on, if it is `greedy`. -/
def Node.choice (greedy : Bool) (inner next : Nat) : Node :=
  if greedy then .fork inner next else .fork next inner

/-- The nodes that read a text, numbered from `base` on, and where to begin. -/
def literalNodes (base next : Nat) : List Char → List Node × Nat
  | [] => ([], next)
  | char :: rest =>
    let (nodes, start) := literalNodes base next rest
    (nodes ++ [.read (.singleton char) start], base + nodes.length)

/-- The nodes of a pattern, numbered from `base` on, and where to begin, if `next`
follows the pattern.

A repetition whose body may take no character has a fork of its own for the first
time, so that it can be left after a time that took none. -/
def nodes (base next : Nat) : Pattern → List Node × Nat
  | empty => ([], next)
  | literal text => literalNodes base next text
  | set chars _ => ([.read chars next], base)
  | look asked => ([.look asked next], base)
  | group _ body => nodes base next body
  | sequence first second =>
    let (later, middle) := nodes base next second
    let (sooner, start) := nodes (base + later.length) middle first
    (later ++ sooner, start)
  | either first second =>
    let (later, second) := nodes base next second
    let (sooner, first) := nodes (base + later.length) next first
    (later ++ sooner ++ [.fork first second], base + later.length + sooner.length)
  | repetition .atMostOnce greedy body =>
    let (inner, start) := nodes base next body
    (inner ++ [.choice greedy start next], base + inner.length)
  | repetition .atLeastOnce greedy body =>
    let (inner, start) := nodes (base + 1) base body
    (.choice greedy start next :: inner, start)
  | repetition .anyNumber greedy body =>
    let (inner, start) := nodes (base + 1) base body
    let again := Node.choice greedy start next
    if body.takesSome then (again :: inner, base)
    else (again :: inner ++ [again], base + inner.length + 1)

/-- A machine: its nodes, which are its places in order. -/
abbrev Machine := Array Node

namespace Machine

/-- The machine of a pattern.  At place 0 it accepts, and from place 1 on it tries the
pattern or, rather not, first reads a character. -/
def ofPattern (pattern : Pattern) : Machine :=
  let (nodes, start) := pattern.nodes 3 0
  (.accept :: .fork start 2 :: .read .full 1 :: nodes).toArray

/-- Where the machine begins. -/
def entrance : Nat := 1

/-- Go on from places without reading, in at most `fuel` steps; `seen` are the places
that were entered, the last one first. -/
def follow (machine : Machine) (holds : Look → Bool) : Nat → List Nat → List Nat → List Nat
  | 0, _, seen => seen
  | _, [], seen => seen
  | fuel + 1, place :: waiting, seen =>
    if seen.contains place then follow machine holds fuel waiting seen
    else
      let waiting := match machine[place]? with
        | some (.fork first second) => first :: second :: waiting
        | some (.look asked next) => if holds asked then next :: waiting else waiting
        | _ => waiting
      follow machine holds fuel waiting (place :: seen)

/-- The places that are entered from some places without reading. -/
def reach (machine : Machine) (holds : Look → Bool) (places : List Nat) : List Nat :=
  (machine.follow holds (places.length + 2 * machine.size + 1) places []).reverse

/-- Whether the machine accepts at a place. -/
def isAccept (machine : Machine) (place : Nat) : Bool :=
  match machine[place]? with
  | some .accept => true
  | _ => false

/-- Where a character leads to.  What is less preferred than accepting is given up. -/
def read (machine : Machine) (char : Char) : List Nat → List Nat
  | [] => []
  | place :: places =>
    match machine[place]? with
    | some .accept => []
    | some (.read chars next) =>
      if chars.contains char then next :: read machine char places else read machine char places
    | _ => read machine char places

/-- Whether the machine accepts at the end of a text that it reads from some places
on. -/
def accepts (machine : Machine) (before : Option Char) (places : List Nat) : List Char → Bool
  | [] => (machine.reach (Look.holds before none) places).any machine.isAccept
  | char :: rest =>
    let reached := machine.reach (Look.holds before (some char)) places
    accepts machine (some char) (machine.read char reached) rest

/-- A machine that is nowhere accepts nothing. -/
theorem accepts_nowhere (machine : Machine) (before : Option Char) (text : List Char) :
    machine.accepts before [] text = false := by
  induction text generalizing before with
  | nil => rfl
  | cons char rest ih => exact ih (some char)

end Machine

/-- Whether the preferred part of a text that a pattern fits ends with the text. -/
def fits (pattern : Pattern) (text : String) : Bool :=
  (Machine.ofPattern pattern).accepts none [Machine.entrance] text.toList

/-- The empty pattern rather fits the front of a text, so that it fits to the end of the
empty text alone. -/
theorem fits_empty_iff (text : String) : fits empty text = true ↔ text = "" := by
  unfold fits
  cases h : text.toList with
  | nil =>
    have : text = "" := by simpa using h
    simp only [this, iff_true]
    decide
  | cons char rest =>
    have : text ≠ "" := by rintro rfl; simp at h
    have stop : (Machine.ofPattern empty).accepts none [Machine.entrance] (char :: rest) =
        (Machine.ofPattern empty).accepts (some char) [] rest := rfl
    simp [this, stop, Machine.accepts_nowhere]

end Pattern

end WasmBridge.Text
