import WasmBridge.Fault
import WasmBridge.Text.Outline

/-!
# Configuration

What a host is told before it starts: how large the memories it creates may be,
whether and how many workers may run, what the guest is told about its local
storage, and how modules are linked and kept.
-/

namespace WasmBridge

/-- The configuration of a host. -/
structure Configuration where
  /-- The least size, in pages, of a memory that the host creates. -/
  initialPages : UInt32 := 32
  /-- The greatest size, in pages, of a memory whose module sets no limit. -/
  maximumPages : UInt32 := 16384
  /-- Whether memory may be shared and workers may be started. -/
  threads : Bool := true
  /-- The greatest number of workers at a time. -/
  workers : Option UInt32 := none
  /-- The size of a thread's local storage, if it is not the guest's to say. -/
  tlsSize : Option UInt32 := none
  /-- The alignment of a thread's local storage, if it is not the guest's to say. -/
  tlsAlign : Option UInt32 := none
  /-- Whether the main context gets stubs for the functions nobody provides. -/
  stubImports : Bool := true
  /-- Whether compiled modules are kept. -/
  keepModules : Bool := true
  /-- Whether modules are compiled with debugging information. -/
  debugInfo : Bool := false
deriving DecidableEq

namespace Configuration

/-- The configuration of a host that never starts a worker. -/
def singleThreaded : Configuration := { threads := false }

/-- A configuration of small memories that keeps no modules. -/
def testing : Configuration :=
  { initialPages := 1, maximumPages := 256, keepModules := false, debugInfo := true }

/-- The greatest number of pages a 32-bit memory has. -/
def pageLimit : UInt32 := 65536

/-- Whether a word is a power of two. -/
def isPowerOfTwo (word : UInt32) : Bool :=
  word ≠ 0 && word &&& (word - 1) == 0

/-- Whether the initial size fits the greatest. -/
def checkInitialPages (config : Configuration) : Except Fault Unit :=
  if config.maximumPages < config.initialPages then
    .error (.configuration "initial_memory_pages"
      s!"{config.initialPages} exceeds max_memory_pages {config.maximumPages}")
  else .ok ()

/-- Whether the greatest size can be addressed. -/
def checkMaximumPages (config : Configuration) : Except Fault Unit :=
  if pageLimit < config.maximumPages then
    .error (.configuration "max_memory_pages"
      s!"{config.maximumPages} exceeds the 32-bit limit of {pageLimit}")
  else .ok ()

/-- Whether at least one worker may run, if there is a limit. -/
def checkWorkers (config : Configuration) : Except Fault Unit :=
  if config.workers = some 0 then
    .error (.configuration "max_workers" "must be at least 1")
  else .ok ()

/-- Whether the alignment is one. -/
def checkTlsAlign (config : Configuration) : Except Fault Unit :=
  match config.tlsAlign with
  | some align =>
    if isPowerOfTwo align then .ok ()
    else .error (.configuration "tls_align" s!"{align} is not a power of two")
  | none => .ok ()

/-- Refuse a configuration that contradicts itself, for the first rule it breaks. -/
def validate (config : Configuration) : Except Fault Unit := do
  config.checkInitialPages
  config.checkMaximumPages
  config.checkWorkers
  config.checkTlsAlign

/-- The configuration in diagnostics. -/
def describe (config : Configuration) : String :=
  Text.Outline.record "BridgeConfig" [
    ("initial_memory_pages", toString config.initialPages),
    ("max_memory_pages", toString config.maximumPages),
    ("threads_enabled", toString config.threads),
    ("max_workers", Text.Outline.option toString config.workers),
    ("tls_size", Text.Outline.option toString config.tlsSize),
    ("tls_align", Text.Outline.option toString config.tlsAlign),
    ("stub_unresolved_imports", toString config.stubImports),
    ("cache_modules", toString config.keepModules),
    ("debug_info", toString config.debugInfo)]

/-- The configuration that nothing was said about is valid. -/
theorem validate_default : validate {} = .ok () := rfl

end Configuration

end WasmBridge
