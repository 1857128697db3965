import WasmBridge.Wasm.Type

/-!
# What host and guest agree on

The names under which a guest finds its host, and those under which the host
finds the parts of a guest, with their types.
-/

namespace WasmBridge.Wasm.Abi

/-- What the function of the host is imported from. -/
def bridgeOrigin : String := "env"

/-- The function that delivers a message to the host. -/
def deliver : String := "kwasm_message_to_host"

/-- The type of the delivering function: library, command, pointer and length to
the answer. -/
def deliverType : FunctionType := ⟨[.i32, .i32, .i32, .i32], [.i32]⟩

/-- The memory of a guest that has its own. -/
def memory : String := "memory"

/-- Room in the guest for bytes from the host: length to pointer. -/
def reserveSpace : String := "kwasm_reserve_space"

/-- The type of `reserveSpace`. -/
def reserveSpaceType : FunctionType := ⟨[.i32], [.i32]⟩

/-- Where a worker enters the guest. -/
def workerEntry : String := "kwasm_web_worker_entry_point"

/-- The whole start of a worker in place of the single steps: stack pointer,
local storage and entry value. -/
def threadStart : String := "kwasm_thread_start"

/-- The type of `threadStart`. -/
def threadStartType : FunctionType := ⟨[.i32, .i32, .i32], []⟩

/-- The function that sets the stack pointer. -/
def setStackPointer : String := "set_stack_pointer"

/-- The global that holds the stack pointer. -/
def stackPointer : String := "__stack_pointer"

/-- The function that prepares the local storage of a thread. -/
def initTls : String := "__wasm_init_tls"

/-- The function that finds room for the local storage of the main thread. -/
def allocTls : String := "kwasm_alloc_thread_local_storage"

/-- The type of `allocTls`. -/
def allocTlsType : FunctionType := ⟨[], [.i32]⟩

/-- The type of the functions that take one word and answer nothing. -/
def wordType : FunctionType := ⟨[.i32], []⟩

/-- The global that holds the size of a thread's local storage. -/
def tlsSize : String := "__tls_size"

/-- The global that holds the alignment of a thread's local storage. -/
def tlsAlign : String := "__tls_align"

/-- The functions with which a guest may begin, the preferred one first. -/
def mainEntries : List String := ["main", "_start"]

end WasmBridge.Wasm.Abi
