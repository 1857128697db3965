import WasmBridge.Context.Basic

/-!
# Contexts in diagnostics

A host is outlined by its module, what it offers, its memory plan and its
workers; a context by its number, its bridge, its handles and its libraries.
-/

namespace WasmBridge

/-- What the contexts of a host share, in diagnostics. -/
def Host.describeShared (host : Host) (shared : Shared) : String :=
  Text.Outline.partialRecord "SharedHost" [
    ("module", Text.quote host.compiled.name),
    ("catalog", host.catalog.describe),
    ("memory", host.plan.describe shared.memory.size),
    ("workers", shared.pool.describe)]

/-- A host in diagnostics. -/
def Host.describe (host : Host) (shared : Shared) : String :=
  Text.Outline.record "Host" [("shared", host.describeShared shared)]

namespace Context

/-- The memory that the code of the guest works on. -/
def memory? (context : Context) (shared : Shared) : Option LinearMemory :=
  match context.home with
  | .absent => none
  | .shared => some shared.memory
  | .own memory => some memory

/-- The bridge of a context in diagnostics. -/
def describeBridge (context : Context) (shared : Shared) : String :=
  let bytes := ((context.memory? shared).map LinearMemory.size).getD 0
  Text.Outline.option (Bridge.describe bytes) context.bridge

/-- The handles of a context in diagnostics. -/
def describeObjects (context : Context) (shared : Shared) : String :=
  context.objects.describe shared.heap.describe

/-- A context of a host in diagnostics. -/
def describe (context : Context) (host : Host) (shared : Shared) : String :=
  Text.Outline.partialRecord "GuestContext" [
    ("state", Text.Outline.record "ContextState" [
      ("id", toString context.id),
      ("shared", host.describeShared shared),
      ("bridge", context.describeBridge shared),
      ("objects", context.describeObjects shared),
      ("libraries", context.libraries.describe)])]

end Context

end WasmBridge
