import WasmBridge.Context.Reentry
import WasmBridge.Library.Samples
import WasmBridge.Proofs.Context.Ends
import WasmBridge.Proofs.Memory.Bytes
import WasmBridge.Value.Samples

/-!
# Small hosts and moments

Where a general result is seen at work, a host is settled by its module and its plan, and a main
context by what is in its memory, the libraries it knows and the values it has.
-/

namespace WasmBridge

namespace Host

/-- A host of a module with a name, with nothing configured and no library on offer. -/
def ofModule (name : String) (module : Wasm.Module) (plan : MemoryPlan) : Host where
  config := {}
  compiled := ⟨name, module, 0⟩
  catalog := []
  globalObject := 0
  plan
  machineThreads := 1

/-- A host whose module is empty. -/
def bare : Host :=
  .ofModule "bare" {} .exported

/-- Ways of entering again that trap. -/
def trapping : Reentry where
  call _ _ := pure (.error .unreachable)
  route envelope := pure (.error (.unknownLibrary envelope.library))

end Host

namespace LinearMemory

/-- A memory of one page with bytes at its start, and of so many pages at most. -/
def page (limit : Nat) (bytes : Bytes) : LinearMemory :=
  put { pages := 1, limit } 0 bytes

theorem fits_page (limit : Nat) {bytes : Bytes} (short : bytes.length ≤ pageSize) :
    (page limit bytes).fits 0 bytes.length := by
  have size : (page limit bytes).size = 1 * pageSize := size_put _ 0 bytes
  rwa [fits_iff, size, Nat.zero_add, Nat.one_mul]

theorem slice_page (limit : Nat) (bytes : Bytes) :
    (page limit bytes).slice 0 bytes.length = bytes :=
  slice_put _ 0 bytes

end LinearMemory

namespace Moment

/-- A main context with a memory of its own, through which it may reserve room or not. -/
def owning (host : Host) (memory : LinearMemory) (canReserve : Bool) : Moment :=
  ({ Context.new host mainContext with
      home := .own memory
      bridge := some ⟨false, canReserve⟩ }, {})

/-- The moment in which the context knows one library. -/
def withLibrary (moment : Moment) (library : Library) : Moment :=
  ({ moment.1 with libraries := ⟨[library]⟩ }, moment.2)

/-- The moment in which the context has one more value, under the next handle. -/
def withValue (moment : Moment) (value : HostValue) : Moment :=
  ({ moment.1 with objects.slots := moment.1.objects.slots.push ⟨0, some value⟩ }, moment.2)

/-- The moment with another heap of host objects and other host functions. -/
def withHeap (moment : Moment) (heap : Heap) (functions : Functions) : Moment :=
  (moment.1, { moment.2 with heap, functions })

end Moment

end WasmBridge
