import WasmBridge.Value.Text

/-!
# Sample functions

Small host functions, by name, that look at every part of a call: the receiver,
the arguments, the heap, and giving up.
-/

namespace WasmBridge.HostFunction

/-- A function that leaves the heap alone. -/
def pure (answer : HostValue → List HostValue → Heap → HostValue) : HostFunction :=
  fun this args heap => (.ok (answer this args heap), heap)

/-- The number of arguments. -/
def argumentCount : HostFunction :=
  pure fun _ args _ => .number args.length.toFloat

/-- The receiver. -/
def receiver : HostFunction :=
  pure fun this _ _ => this

/-- The first argument. -/
def first : HostFunction :=
  pure fun _ args _ => args.headD .null

/-- No value. -/
def nothing : HostFunction :=
  pure fun _ _ _ => .null

/-- The texts of the arguments in a row. -/
def concat : HostFunction :=
  pure fun _ args heap => .string (String.join (args.map heap.toText))

/-- The length of the first argument. -/
def measure : HostFunction :=
  pure fun _ args heap => (heap.property? "length" (args.headD .null)).getD .null

/-- Set a property of the receiver and answer with the value it had. -/
def assign : HostFunction := fun this args heap =>
  match this, args with
  | .object id, [name, value] =>
    let name := heap.toText name
    (.ok ((heap.get? id name).getD .null), heap.set id name value)
  | _, _ => (.ok (.bool false), heap)

/-- Give up. -/
def giveUp : HostFunction :=
  fun _ _ heap => (.error "host function bug", heap)

/-- The sample functions by name. -/
def sample? : String → Option HostFunction
  | "argc" => some argumentCount
  | "this" => some receiver
  | "first" => some first
  | "null" => some nothing
  | "concat" => some concat
  | "measure" => some measure
  | "assign" => some assign
  | "panic" => some giveUp
  | _ => none

end WasmBridge.HostFunction
