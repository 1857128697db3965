import WasmBridge.Log.Directive
import WasmBridge.Log.Event
import WasmBridge.Text.Pattern.Machine

/-!
# Log filters

A filter is a list of directives between commas.  Of the directives for an event
the most specific one counts; and while the span of a context is open that some
directive is about, the filter is open for what the context reports at least as
far as that directive says.  A filter that cannot be read lets events of level
`info` and above through.
-/

namespace WasmBridge.Log

/-- A filter. -/
abbrev Filter := List Directive

namespace Filter

/-- What takes the place of a filter that cannot be read. -/
def standard : Filter := [⟨{}, 3⟩]

/-- Read a filter. -/
def read (text : String) : Filter :=
  (((text.splitOn ",").filter (· != "")).mapM Directive.read?).getD standard

/-- The more specific of two directives, the later one if they are equally
specific. -/
def stronger (found : Option Directive) (directive : Directive) : Option Directive :=
  match found with
  | none => some directive
  | some other => if other.yieldsTo directive then some directive else some other

/-- How far the most specific of some directives opens the filter. -/
def verbosityOf (directives : List Directive) : Nat :=
  ((directives.foldl stronger none).map Directive.verbosity).getD 0

/-- How far a filter is open for events under a target, with fields of these
names. -/
def verbosity (filter : Filter) (target : String) (fields : List String) : Nat :=
  verbosityOf (filter.filter fun directive =>
    directive.isOfEvents && directive.coversEvent target fields)

/-- Whether a filter lets an event through, whatever spans are open. -/
def lets (filter : Filter) (event : Event) : Bool :=
  event.level.verbosity ≤ verbosity filter event.target event.fieldNames

/-- How far a filter is open for anything.  What spans are only shows once they are
open, so a filter that expects something of a field is open fully. -/
def reach (filter : Filter) : Nat :=
  if filter.any (·.expected?.isSome) then greatestVerbosity
  else (filter.map Directive.verbosity).foldl max 0

/-- The directives that no later one about the same takes the place of. -/
def latest : Filter → List Directive
  | [] => []
  | directive :: rest =>
    if rest.any (·.scope == directive.scope) then latest rest else directive :: latest rest

/-- Whether a field of a context's span is as expected. -/
def meets (context : UInt32) (role : Role) (test : FieldTest) : Bool :=
  match test.expected with
  | none => true
  | some (.word value) => test.name == "context" && value == context
  | some (.text pattern) =>
    test.name == "role" && (Text.Pattern.read? pattern).any (·.fits role.name)
  | some .unmet => false

/-- The directives about the spans of contexts of a role. -/
def ofSpan (filter : Filter) (role : Role) : List Directive :=
  (latest filter).filter fun directive =>
    directive.isOfSpans && directive.coversEvent role.target contextSpanFields &&
      directive.scope.span.all (· == contextSpan)

/-- How far a filter is open while the span of a context is open. -/
def spanVerbosity (filter : Filter) (context : UInt32) (role : Role) : Nat :=
  (((ofSpan filter role).filter fun directive =>
    directive.scope.field.all (meets context role)).map Directive.verbosity).foldl max 0

/-- Whether a filter lets the spans of contexts of a role through: one that some
directive is about, or one under a target that the filter is open for. -/
def letsSpan (filter : Filter) (role : Role) : Bool :=
  Level.info.verbosity ≤ reach filter &&
    (!(ofSpan filter role).isEmpty ||
      Level.info.verbosity ≤ verbosityOf (filter.filter fun directive =>
        directive.isOfEvents && directive.covers role.target))

/-- How far a filter is open for what a context reports while its span is open,
beyond what it lets through anyway. -/
def spanReach (filter : Filter) (context : UInt32) (role : Role) : Nat :=
  if letsSpan filter role then spanVerbosity filter context role else 0

/-- Go through what was reported from the last event to the first: the spans that
end later, with how far the filter is open while they are open, and the events
that pass. -/
def pick (filter : Filter) (entry : UInt32 × Event)
    (later : List (UInt32 × Nat) × List (UInt32 × Event)) :
    List (UInt32 × Nat) × List (UInt32 × Event) :=
  let (spans, kept) := later
  match entry with
  | (context, .contextClosed id role) =>
    ((context, spanReach filter id role) :: spans,
      if letsSpan filter role then entry :: kept else kept)
  | (context, event) =>
    let width := if event.isOfContext then (spans.lookup context).getD 0 else 0
    if lets filter event || event.level.verbosity ≤ width then (spans, entry :: kept)
    else (spans, kept)

/-- The events that pass a filter, of all that was reported by the contexts. -/
def select (filter : Filter) (log : List (UInt32 × Event)) : List (UInt32 × Event) :=
  (log.foldr (pick filter) ([], [])).2

/-- The empty filter lets nothing through. -/
theorem lets_nil (event : Event) : lets [] event = false := by
  cases event <;> first | rfl | (rename_i level _; cases level <;> rfl)

end Filter

end WasmBridge.Log
