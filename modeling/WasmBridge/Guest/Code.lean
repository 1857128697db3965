import WasmBridge.Context.Router

/-!
# Running the code of a guest

The code of a function computes with words in the context of its instance.
Words wrap around.  What the code sends to the host is delivered, what it calls is
entered anew, and a function that nobody provides answers with zeros.
-/

namespace WasmBridge.Guest

/-- Code that may trap. -/
abbrev Code := ExceptT Trap Activity

/-- The word that stands for a memory that did not grow. -/
def refused : UInt32 := 0xFFFFFFFF

/-- The memory of the instance; without one every access is out of bounds. -/
def memory : Code LinearMemory := do
  match ← (Activity.memory? : Activity (Option LinearMemory)) with
  | some memory => return memory
  | none => throw .outOfBounds

/-- The word at an address. -/
def load (address : UInt32) : Code UInt32 := do
  match (← memory).wordAt? address with
  | some word => return word
  | none => throw .outOfBounds

/-- Put a word at an address. -/
def store (address word : UInt32) : Code Unit := do
  match (← memory).putWord? address word with
  | some memory => Activity.setMemory memory
  | none => throw .outOfBounds

/-- Grow the memory and answer with its size before, in pages. -/
def grow (pages : UInt32) : Code UInt32 := do
  match (← memory).grow? pages.toNat with
  | some (before, memory) =>
    (Activity.setMemory memory : Activity Unit)
    return UInt32.ofNat before
  | none => return refused

/-- Wait until the word at an address is not 0.  The word of a memory that is not
shared stays as it is while its only context waits. -/
def wait (address : UInt32) : Code Unit := do
  let word ← load address
  match (← (get : Activity Context)).home with
  | .shared =>
    Activity.waitUntil fun shared => (shared.memory.wordAt? address).any (· ≠ 0)
  | _ => Activity.waitUntil fun _ => word ≠ 0

/-- The word of a global. -/
def global (name : String) : Code UInt32 := do
  let context ← (get : Activity Context)
  return ((context.global? (.own name)).getD (.word 0)).toWord

/-- Set a global to a word. -/
def setGlobal (name : String) (word : UInt32) : Code Unit :=
  (modify fun context => context.setGlobal (.own name) (.word word) : Activity Unit)

/-- The default results of a stub. -/
def defaults (qualified : String) : List Wasm.ValueType → Except Trap (List Wasm.Value)
  | [] => .ok []
  | type :: rest =>
    match Wasm.Value.default? type with
    | some value => (defaults qualified rest).map (value :: ·)
    | none => .error (.noDefault qualified type)

/-- Call a stub. -/
def callStub (qualified : String) (results : List Wasm.ValueType) : Code (List Wasm.Value) := do
  let context ← (get : Activity Context)
  (Activity.report (.stubCalled context.id qualified) : Activity Unit)
  ExceptT.mk (pure (defaults qualified results))

/-- Whether an import is the function that delivers messages. -/
def isDeliver (item : Wasm.Import) : Bool :=
  item.origin == Wasm.Abi.bridgeOrigin && item.name == Wasm.Abi.deliver

variable (module : Wasm.Module) (again : Reentry)

/-- Deliver a message and answer with the host's answer. -/
def send (library command pointer length : UInt32) : Code UInt32 :=
  (again.deliver ⟨library, command, pointer, length⟩ : Activity UInt32)

/-- The imported function of a qualified name, with its type. -/
def importedFunction? (target : String) : Option (Wasm.Import × Wasm.FunctionType) :=
  module.imports.findSome? fun item =>
    match item.type with
    | .function type => if item.qualified == target then some (item, type) else none
    | _ => none

/-- Call an imported function. -/
def callImport (item : Wasm.Import) (type : Wasm.FunctionType) (args : List Wasm.Value) :
    Code (List Wasm.Value) := do
  if isDeliver item then
    let word (index : Nat) : UInt32 := (args.getD index (.word 0)).toWord
    let answer ← send again (word 0) (word 1) (word 2) (word 3)
    return [.word answer]
  else callStub item.qualified type.results

/-- Call a function of the module, or an imported one by its qualified name. -/
def callTarget (target : String) (args : List Wasm.Value) : Code (List Wasm.Value) := do
  match module.function? (.own target) with
  | some _ => ExceptT.mk (again.call (.own target) args)
  | none =>
    match importedFunction? module target with
    | some (item, type) => callImport again item type args
    | none => throw (.noFunction target)

/-- Call an imported function with zeros and null references. -/
def probe (target : String) : Code (List Wasm.Value) := do
  match importedFunction? module target with
  | some (item, type) => callImport again item type (type.parameters.map .initial)
  | none => throw (.noFunction target)

/-- The first of some results as a word. -/
def firstWord (results : List Wasm.Value) : UInt32 :=
  (results.headD (.word 0)).toWord

variable (args : List Wasm.Value)

mutual

/-- The word of an expression, the arguments of the function given. -/
def eval : Wasm.Expr → Code UInt32
  | .word value => return value
  | .parameter index => return (args.getD index (.word 0)).toWord
  | .global name => global name
  | .load address => do load (← eval address)
  | .add left right => do
    let left ← eval left
    let right ← eval right
    return left + right
  | .grow pages => do grow (← eval pages)
  | .send library command pointer length => do
    let library ← eval library
    let command ← eval command
    let pointer ← eval pointer
    let length ← eval length
    send again library command pointer length
  | .call target operands => do
    let words ← evalAll operands
    return firstWord (← callTarget module again target (words.map .word))
  | .probe target => do return firstWord (← probe module again target)

/-- The words of expressions, from the first to the last. -/
def evalAll : List Wasm.Expr → Code (List UInt32)
  | [] => return []
  | expr :: rest => do
    let word ← eval expr
    return word :: (← evalAll rest)

end

mutual

/-- Carry out an instruction. -/
def exec : Wasm.Statement → Code Unit
  | .store address value => do
    let address ← eval module again args address
    let value ← eval module again args value
    store address value
  | .setGlobal name value => do setGlobal name (← eval module again args value)
  | .compute value => do
    let _ ← eval module again args value
    return ()
  | .run target operands => do
    let words ← evalAll module again args operands
    let _ ← callTarget module again target (words.map .word)
    return ()
  | .trap => throw .unreachable
  | .when condition block => do
    let word ← eval module again args condition
    if word ≠ 0 then execAll block else return ()
  | .wait address => do wait (← eval module again args address)

/-- Carry out instructions, from the first to the last. -/
def execAll : List Wasm.Statement → Code Unit
  | [] => return ()
  | statement :: rest => do
    exec statement
    execAll rest

end

/-- The results of a function: the words of its answers, and zeros for what is left
out or is no word. -/
def answers : List Wasm.ValueType → List Wasm.Expr → Code (List Wasm.Value)
  | [], _ => return []
  | type :: types, [] => do return .initial type :: (← answers types [])
  | type :: types, expr :: exprs => do
    let word ← eval module again args expr
    let value : Wasm.Value := if type = .i32 then .word word else .initial type
    return value :: (← answers types exprs)

/-- Run a function of the module with arguments. -/
def call (designator : Wasm.Designator) : Code (List Wasm.Value) := do
  match module.function? designator with
  | some function =>
    execAll module again args function.body
    answers module again args function.type.results function.answers
  | none => throw (.noFunction designator.name)

end WasmBridge.Guest

namespace WasmBridge.Host

/-- How deep calls and messages may be nested. -/
def greatestDepth : Nat := 16384

/-- The ways of entering a context again, to a depth.  Code of the guest has at least one level
left below it, on which the messages that it sends are served.  On the last levels a call traps,
and on the very last one a library that routes a message is refused. -/
def reentry (host : Host) : Nat → Reentry
  | 0 => {
    call := fun _ _ => return .error .exhausted
    route := fun _ => return .error (.engine Guest.Trap.exhausted.text) }
  | depth + 1 => {
    call := fun designator args =>
      if depth = 0 then return .error .exhausted
      else (Guest.call host.module (reentry host depth) args designator).run
    route := fun envelope => (host.route (reentry host depth) envelope).run }

/-- The ways of entering a context from outside. -/
def entry (host : Host) : Reentry :=
  host.reentry greatestDepth

end WasmBridge.Host
