import WasmBridge.Decimal.Numeral
import WasmBridge.Text.Alphanumeric
import WasmBridge.Text.Blank
import WasmBridge.Text.Pattern.Reader
import WasmBridge.Text.Utf8

/-!
# Directives of log filters

A directive opens a filter to a level: for a target, for the events that have a
field, or while a span is open whose name or field is as the directive says.  It
is written as the target, the span and its field between brackets, and the level
after an equality sign, each of which may be left out.
-/

namespace WasmBridge.Log

/-- What a directive expects of the field of a span. -/
inductive Expectation where
  | word (value : UInt32)
  /-- A pattern, by its written form. -/
  | text (pattern : String)
  /-- A truth value, a fraction, or a number below 0 or beyond a word, which no
  field of a span is. -/
  | unmet
deriving DecidableEq

/-- What a directive says about a field: that it is there and perhaps what it is. -/
structure FieldTest where
  name : String
  expected : Option Expectation := none
deriving DecidableEq

/-- What a directive is about. -/
structure Scope where
  /-- The beginning of the targets. -/
  target : Option String := none
  /-- The name of the span. -/
  span : Option String := none
  field : Option FieldTest := none
deriving DecidableEq

/-- How far the filter is open for a scope. -/
structure Directive where
  scope : Scope
  verbosity : Nat
deriving DecidableEq

/-- The names of the levels with how far each opens a filter. -/
def levelNames : List (String × Nat) :=
  [("off", 0), ("error", 1), ("warn", 2), ("info", 3), ("debug", 4), ("trace", 5)]

/-- How far a filter can be open. -/
def greatestVerbosity : Nat := 5

/-- Read a level: its name in any letter case, or its number. -/
def readLevel? (text : String) : Option Nat :=
  let lower := String.ofList (text.toList.map Char.toLower)
  match levelNames.lookup lower with
  | some verbosity => some verbosity
  | none =>
    match Decimal.readUInt32 text with
    | .ok number => if number.toNat ≤ greatestVerbosity then some number.toNat else none
    | .error _ => none

/-- Read what is expected of a field. -/
def Expectation.read? (text : String) : Option Expectation :=
  if text = "true" ∨ text = "false" then some .unmet
  else match Decimal.readUInt32 text with
    | .ok value => some (.word value)
    | .error _ =>
      if (Decimal.readFloat? text).isSome then some .unmet
      else (Text.Pattern.read? text).map fun _ => .text text

/-- Read what is said about a field: its name, and after an equality sign what is
expected of it.  Another equality sign ends that. -/
def FieldTest.read? (text : String) : Option FieldTest :=
  match text.splitOn "=" with
  | name :: expected :: _ =>
    (Expectation.read? expected).map fun expected => ⟨name, some expected⟩
  | [name] => some ⟨name, none⟩
  | [] => none

namespace Directive

/-- The characters a directive may begin with, besides an opening bracket. -/
def startsTarget (char : Char) : Bool :=
  char == '-' || char == ':' || char == '_' || Text.isAlphanumeric char

/-- A directive without an equality sign and brackets: a level, or a target that is
opened fully. -/
def ofWord (word : String) : Directive :=
  match readLevel? word with
  | some verbosity => ⟨{}, verbosity⟩
  | none => ⟨{ target := some word }, greatestVerbosity⟩

/-- The part of a text that begins at one byte and ends before another. -/
def part (whole : Bytes) (first last : Nat) : String :=
  Text.Utf8.decodeLossy ((whole.drop first).take (last - first))

/-- How many bytes stand before the first of some marks. -/
def distance (marks : List Char) (bytes : Bytes) : Nat :=
  (bytes.takeWhile fun byte => !marks.any fun mark => mark.toNat == byte.toNat).length

/-- Read what follows the brackets or the target: an equality sign and a level, or
nothing.  `place` is where it begins among the parts of the directive. -/
def readRest? (whole : Bytes) (scope : Scope) (place : Nat) : Bytes → Option Directive
  | [] => some ⟨scope, greatestVerbosity⟩
  | 0x3D :: _ =>
    let level := part whole (place + 1) whole.length
    if level = "" then some ⟨scope, greatestVerbosity⟩
    else (readLevel? level).map fun verbosity => ⟨scope, verbosity⟩
  | _ :: _ => none

/-- Read the field of a span, the closing brackets, and what follows them. -/
def readField? (whole : Bytes) (scope : Scope) (place : Nat) (bytes : Bytes) :
    Option Directive :=
  let size := distance ['\x7d'] bytes
  match bytes.drop size with
  | 0x7D :: 0x5D :: rest => do
    let text := part whole place (place + size)
    if text = "" then none
    else
      let field ← FieldTest.read? text
      readRest? whole { scope with field := some field } (place + size + 2) rest
  | _ => none

/-- Read the name of a span and what follows it. -/
def readSpan? (whole : Bytes) (target : Option String) (place : Nat) (bytes : Bytes) :
    Option Directive :=
  let size := distance [']', '\x7b'] bytes
  let name := part whole place (place + size)
  match bytes.drop size with
  | 0x5D :: rest => readRest? whole { target, span := some name } (place + size + 1) rest
  | 0x7B :: rest =>
    let span := if name = "" then none else some name
    readField? whole { target, span } (place + size + 1) rest
  | _ => none

/-- Read a target and what follows it. -/
def readTarget? (whole bytes : Bytes) : Option Directive :=
  let size := distance ['=', '['] bytes
  let target := part whole 0 size
  match bytes.drop size with
  | [] => some (ofWord (part whole 0 whole.length))
  | 0x5B :: rest => readSpan? whole (some target) (size + 1) rest
  | rest => readRest? whole { target := some target } size rest

/-- Read a directive.  Where its parts begin and end is found without the blanks
around it, but they are cut out of the whole text, so that blanks before a
directive push every part towards the front. -/
def read? (text : String) : Option Directive :=
  let whole := Text.Utf8.encode text
  let bytes := Text.Utf8.encode (Text.trim text)
  match Text.trimChars text.toList with
  | [] => none
  | '[' :: _ => readSpan? whole none 1 (bytes.drop 1)
  | first :: _ => if startsTarget first then readTarget? whole bytes else none

/-- Whether a directive is about spans. -/
def isOfSpans (directive : Directive) : Bool :=
  directive.scope.span.isSome || directive.scope.field.isSome

/-- What a directive expects of the field of a span, if anything. -/
def expected? (directive : Directive) : Option Expectation :=
  directive.scope.field.bind FieldTest.expected

/-- Whether a directive is about events whatever spans are open: it names no span
and expects nothing of a field. -/
def isOfEvents (directive : Directive) : Bool :=
  directive.scope.span.isNone && directive.expected?.isNone

/-- Whether a directive is about a target. -/
def covers (directive : Directive) (target : String) : Bool :=
  match directive.scope.target with
  | none => true
  | some text => target.startsWith text

/-- The name of the field that a directive is about. -/
def fieldName? (directive : Directive) : Option String :=
  directive.scope.field.map FieldTest.name

/-- Whether a directive is about an event under a target, with fields of these
names. -/
def coversEvent (directive : Directive) (target : String) (fields : List String) : Bool :=
  directive.covers target &&
    match directive.fieldName? with
    | none => true
    | some name => fields.contains name

/-- How specific the target of a directive is. -/
def weight (directive : Directive) : Nat :=
  match directive.scope.target with
  | none => 0
  | some text => text.utf8ByteSize + 1

/-- Whether another directive is at least as specific: by the length of its target,
and for targets of one length by whether it names a field and by the field's
name. -/
def yieldsTo (directive other : Directive) : Bool :=
  directive.weight < other.weight || directive.weight = other.weight &&
    match directive.fieldName?, other.fieldName? with
    | none, _ => true
    | some _, none => false
    | some name, some later => name ≤ later

/-- A directive without an equality sign that is no level opens a target fully. -/
theorem ofWord_of_readLevel?_eq_none {word : String} (h : readLevel? word = none) :
    ofWord word = ⟨{ target := some word }, greatestVerbosity⟩ := by
  simp [ofWord, h]

end Directive

end WasmBridge.Log
