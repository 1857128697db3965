import WasmBridge.Json.Basic
import WasmBridge.Library.Registry
import WasmBridge.Wire.Words

/-!
# Sample libraries

Small libraries that make every kind of request: they note what they were sent,
hand bytes and texts back to the guest, look into its memory and its context, end
in faults, give up, and send messages on.
-/

namespace WasmBridge.Samples

/-- The hexadecimal digits of bytes, as noted in the journal. -/
def hex (bytes : Bytes) : Json :=
  .string (String.ofList (bytes.flatMap fun byte =>
    [Nat.digitChar (byte.toNat / 16), Nat.digitChar (byte.toNat % 16)]))

/-- A word, as noted in the journal. -/
def word (value : UInt32) : Json := .integer value.toNat

/-- Note a remark. -/
def note (remark : List Json) : Program Unit :=
  Program.ask (.note (.array remark))

/-- Notes the context, the command and the payload. -/
def recorder (command : UInt32) (payload : Bytes) : Program UInt32 := do
  let context ← Program.ask .contextId
  note [word context, word command, hex payload]
  return UInt32.ofNat (payload.length + 100)

/-- Hands a text back to the guest and reads it there. -/
def echo (_ : UInt32) (payload : Bytes) : Program UInt32 := do
  let text ← Program.ofExcept (decodeText payload 0)
  let range ← Program.writeText text
  let text ← Program.readText range.offset range.size
  note [.string text, word range.offset, word range.size]
  return range.size

/-- Hands bytes back to the guest. -/
def echoBytes (_ : UInt32) (payload : Bytes) : Program UInt32 := do
  let range ← Program.writeBytes payload
  return range.offset

/-- Gives up with a fixed text. -/
def giveUp (_ : UInt32) (_ : Bytes) : Program UInt32 :=
  Program.panic (.message "library bug")

/-- Gives up with a text that names the command. -/
def giveUpOn (command : UInt32) (_ : Bytes) : Program UInt32 :=
  Program.panic (.message s!"bug in command {command}")

/-- Gives up without a text. -/
def giveUpSilently (_ : UInt32) (_ : Bytes) : Program UInt32 :=
  Program.panic .other

/-- Knows no command and takes itself for another library. -/
def unknown (command : UInt32) (_ : Bytes) : Program UInt32 :=
  Program.refuse (.unknownCommand 77 command)

/-- Takes every command for a handle and refuses it. -/
def fail (command : UInt32) (_ : Bytes) : Program UInt32 :=
  Program.refuse (.invalidHandle command)

/-- Looks into the memory of the guest and writes to it. -/
def memory (command : UInt32) (payload : Bytes) : Program UInt32 := do
  match command.toNat with
  | 0 => return UInt32.ofNat (← Program.memorySize)
  | 1 =>
    let (offset, length) ← Program.ofExcept (Wire.decodeTwo payload "mem view")
    let bytes ← Program.view offset length
    note [word (← Program.ask .contextId), word command, hex bytes]
    return UInt32.ofNat (bytes.foldl (fun sum byte => sum + byte.toNat) 0)
  | 2 =>
    let offset ← Program.ofExcept (Wire.decodeOne (payload.take 4) "mem write")
    Program.write offset (payload.drop 4)
    return 1
  | 3 =>
    let (offset, length) ← Program.ofExcept (Wire.decodeTwo payload "mem read")
    let text ← Program.readText offset length
    note [word (← Program.ask .contextId), word command, .string text]
    return UInt32.ofNat text.length
  | _ => Program.refuse (.unknownCommand 0 command)

/-- Looks into the context of the guest and changes the global object. -/
def context (command : UInt32) (payload : Bytes) : Program UInt32 := do
  match command.toNat with
  | 0 => Program.ask .contextId
  | 1 => return UInt32.ofNat (← Program.ask (.propertyCount (← Program.ask .globalObject)))
  | 2 => return UInt32.ofNat (← Program.ask .libraryCount)
  | 3 => Program.ask .availableThreads
  | 4 =>
    let name ← Program.ofExcept (decodeText payload 0)
    let id ← Program.ask .contextId
    let global ← Program.ask .globalObject
    let old ← Program.ask (.setProperty global name (.number id.toNat.toFloat))
    Program.insert (old.getD .null)
  | 5 =>
    let handle ← Program.ofExcept (Wire.decodeOne payload "ctx release")
    match ← Program.ask (.release handle) with
    | some _ => return 1
    | none => return 0
  | 6 => return UInt32.ofNat (← Program.ask .liveCount)
  | _ =>
    let handle ← Program.ofExcept (Wire.decodeOne payload "ctx object")
    let value ← Program.lookup handle
    match value.asWord? with
    | some word => return word
    | none => Program.refuse (.invalidHandle handle)

/-- Sends the message in the payload on. -/
def reroute (_ : UInt32) (payload : Bytes) : Program UInt32 := do
  match ← Program.ofExcept (Wire.decodeExact 4 payload "reroute") with
  | [library, command, pointer, length] => Program.route ⟨library, command, pointer, length⟩
  | _ => Program.refuse (.malformedPayload "reroute" 16 payload.length)

/-- The way of serving with this name. -/
def serve? : String → Option (UInt32 → Bytes → Program UInt32)
  | "recorder" => some recorder
  | "echo" => some echo
  | "echo_bytes" => some echoBytes
  | "panic_str" => some giveUp
  | "panic_fmt" => some giveUpOn
  | "panic_any" => some giveUpSilently
  | "unknown" => some unknown
  | "fail" => some fail
  | "mem" => some memory
  | "ctx" => some context
  | "reroute" => some reroute
  | _ => none

/-- A library of a name that serves in a way of this name. -/
def library (kind name : String) : Library :=
  ⟨name, (serve? kind).getD unknown⟩

end WasmBridge.Samples
