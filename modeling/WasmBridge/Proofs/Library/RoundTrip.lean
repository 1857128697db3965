import WasmBridge.Proofs.Context.Delivery
import WasmBridge.Proofs.Context.Histories
import WasmBridge.Proofs.Context.Room
import WasmBridge.Proofs.Text.Utf8
import WasmBridge.Proofs.Wire.Words

/-!
# Texts that go to the host and back

A guest sends the bytes of a text and gets a handle.  As long as it does not release the
handle, it can have the bytes back: the host asks it for room and puts them there, and
nothing that the guest does meanwhile changes which bytes these are.
-/

namespace WasmBridge

open Activity

variable {host : Host} {again : Reentry} {others : Shared → Shared → Prop}
  {before middle after : Moment} {envelope : Wire.Envelope} {bytes : Bytes} {handle : Handle}

/-- A value keeps bytes when they are those of its text, whatever the heap. -/
def HostValue.Keeps (value : HostValue) (bytes : Bytes) : Prop :=
  ∀ heap : Heap, Text.Utf8.encode (heap.toText value) = bytes

theorem HostValue.keeps_string (text : String) :
    (HostValue.string text).Keeps (Text.Utf8.encode text) :=
  fun _ => rfl

theorem HostValue.keeps_bytes (text : String) :
    (HostValue.bytes (Text.Utf8.encode text)).Keeps (Text.Utf8.encode text) :=
  fun _ => congrArg Text.Utf8.encode (Text.Utf8.decodeLossy_encode text)

/-! ## Reading -/

/-- How a message reads bytes back.  What the guest does when it is asked for room is
given by `again`, in any way. -/
structure ReadsBack (host : Host) (again : Reentry) (others : Shared → Shared → Prop)
    (envelope : Wire.Envelope) (bytes : Bytes) (before : Moment) : Prop where
  /-- Wherever the guest makes room, it gets the bytes there, and their number. -/
  handed : ∀ outcome middle offset memory,
    (again.call (.exported Wasm.Abi.reserveSpace)
      [.word (UInt32.ofNat bytes.length)]).EndsAmid others before outcome middle →
    middle.Roomy bytes.length outcome offset memory →
    ∃ answer after, ((host.serving again).deliver envelope).EndsAmid others before answer after ∧
      answer.toNat = bytes.length ∧ Handed memory offset bytes middle after
  /-- There is no other way for the message to end. -/
  only : ∀ answer after,
    ((host.serving again).deliver envelope).EndsAmid others before answer after →
    ∃ outcome middle,
      (again.call (.exported Wasm.Abi.reserveSpace)
        [.word (UInt32.ofNat bytes.length)]).EndsAmid others before outcome middle ∧
      ∀ offset memory, middle.Roomy bytes.length outcome offset memory →
        answer.toNat = bytes.length ∧ Handed memory offset bytes middle after

/-- To read the text of a value is to hand its bytes over. -/
theorem Host.endsAmid_readString_iff {value : HostValue} {result : Except Failure UInt32}
    (found : before.1.objects.get handle = .ok value) :
    (host.run again (Objects.serveCommand .readString (Wire.encodeWord handle))).EndsAmid others
        before result after ↔
      ∃ written, (again.writeText (before.2.heap.toText value)).run.EndsAmid others before
          written after ∧
        result = (written.mapError .fault).map GuestRange.size := by
  have decoded : Wire.decodeOne (Wire.encodeWord handle) "read string" = .ok handle :=
    Wire.decodeOne_eq_ok_iff.mpr rfl
  have looked : (host.respond again (.lookup handle)).EndsAtOnce before
      (before.1.objects.get handle) before := rfl
  have read : (host.respond again (.textOf value)).EndsAtOnce before
      (before.2.heap.toText value) before := rfl
  unfold Objects.serveCommand
  rw [decoded]
  refine looked.endsAmid_bind_iff.trans ?_
  rw [found]
  refine read.endsAmid_bind_iff.trans ?_
  refine endsAmid_bind_iff.trans ?_
  constructor
  · rintro ⟨written, middle, entered, rest⟩
    cases written with
    | error fault =>
        obtain ⟨rfl, rfl⟩ := endsAmid_pure_iff.mp rest
        exact ⟨_, entered, rfl⟩
    | ok range =>
        obtain ⟨rfl, rfl⟩ := endsAmid_pure_iff.mp rest
        exact ⟨_, entered, rfl⟩
  · rintro ⟨written, entered, rfl⟩
    refine ⟨written, after, entered, ?_⟩
    cases written <;> exact endsAmid_pure_iff.mpr ⟨rfl, rfl⟩

/-- The outcome of a message that reads a text, by what came of its bytes. -/
def Host.readOutcome (library : UInt32) (written : Except Fault GuestRange) :
    Except Fault UInt32 :=
  ((written.mapError .fault).map GuestRange.size).mapError (failureFault library)

variable {value : HostValue} {bridge : Bridge}

/-- What it takes for a message to read the bytes of a text by its handle. -/
structure Moment.Reads (moment : Moment) (envelope : Wire.Envelope) (handle : Handle)
    (value : HostValue) (bytes : Bytes) : Prop where
  reaches : moment.Reaches envelope Objects.library (Wire.encodeWord handle)
  command : envelope.command = Wire.ObjectCommand.readString.toWord
  found : moment.1.objects.get handle = .ok value
  keeps : value.Keeps bytes
  short : bytes.length < UInt32.size
  exported : ∃ bridge, moment.1.bridge = some bridge ∧ bridge.canReserve

/-- A message that reads a text asks the guest for room once, and its outcome is what came
of the bytes there. -/
theorem Host.endsAmid_route_readString_iff {result : Except Fault UInt32}
    (reads : before.Reads envelope handle value bytes) :
    (host.route again envelope).run.EndsAmid others before result after ↔
      ∃ outcome middle,
        (again.call (.exported Wasm.Abi.reserveSpace)
          [.word (UInt32.ofNat bytes.length)]).EndsAmid others before outcome middle ∧
        result = readOutcome envelope.library (middle.handOver bytes outcome).1 ∧
        after = (middle.handOver bytes outcome).2 := by
  obtain ⟨reaches, command, found, keeps, short, bridge, bound, exported⟩ := reads
  obtain ⟨memory, there⟩ : ∃ memory, before.memory? = some memory := by
    rcases reaches.carried with ⟨-, impossible⟩ | ⟨-, memory, -, there, -⟩
    · cases impossible
    · exact ⟨memory, there⟩
  have same : again.writeText (before.2.heap.toText value) = again.writeBytes bytes :=
    congrArg again.writeBytes (keeps before.2.heap)
  rw [endsAmid_route_of_reaches reaches, command, Objects.serve_toWord]
  simp only [endsAmid_readString_iff found, same,
    Reentry.endsAmid_writeBytes_iff bound there exported short]
  constructor
  · rintro ⟨-, ⟨written, ⟨outcome, middle, called, handed⟩, rfl⟩, rfl⟩
    obtain ⟨rfl, rfl⟩ := Prod.ext_iff.mp handed
    exact ⟨outcome, middle, called, rfl, rfl⟩
  · rintro ⟨outcome, middle, called, rfl, rfl⟩
    exact ⟨_, ⟨_, ⟨outcome, middle, called, rfl⟩, rfl⟩, rfl⟩

/-- Where the guest made room, reading ends with the bytes there. -/
theorem Handed.of_roomy {outcome : Except Guest.Trap (List Wasm.Value)} {offset : UInt32}
    {memory : LinearMemory} (roomy : middle.Roomy bytes.length outcome offset memory)
    (short : bytes.length < UInt32.size) (library : UInt32) :
    (Receipt.answer ⟨envelope, Host.readOutcome library (middle.handOver bytes outcome).1⟩).toNat =
        bytes.length ∧
      Handed memory offset bytes middle ((middle.handOver bytes outcome).2.closing
        ⟨envelope, Host.readOutcome library (middle.handOver bytes outcome).1⟩) := by
  rw [roomy.handOver]
  exact ⟨UInt32.toNat_ofNat_of_lt' short, handed_withMemory roomy.found offset bytes⟩

theorem Moment.Reads.readsBack (reads : before.Reads envelope handle value bytes) :
    ReadsBack host again others envelope bytes before where
  handed outcome middle offset memory called roomy := by
    have routed : ((host.serving again).route envelope).EndsAmid others before _ _ :=
      (Host.endsAmid_route_readString_iff reads).mpr ⟨outcome, middle, called, rfl, rfl⟩
    exact ⟨_, _, Reentry.endsAmid_deliver_iff.mpr ⟨_, _, routed, rfl, rfl⟩,
      Handed.of_roomy roomy reads.short _⟩
  only answer after delivered := by
    obtain ⟨result, last, routed, rfl, rfl⟩ := Reentry.endsAmid_deliver_iff.mp delivered
    obtain ⟨outcome, middle, called, rfl, rfl⟩ :=
      (Host.endsAmid_route_readString_iff reads).mp routed
    exact ⟨outcome, middle, called, fun offset memory roomy =>
      Handed.of_roomy roomy reads.short _⟩

/-! ## Sending -/

theorem Moment.Reaches.length_lt {library : Library}
    (reaches : before.Reaches envelope library bytes) : bytes.length < UInt32.size := by
  rcases reaches.carried with ⟨-, rfl⟩ | ⟨_, memory, -, -, -, rfl⟩
  · decide
  · rw [LinearMemory.length_slice]
    exact envelope.length.toNat_lt

/-- A message that has a value stored is answered with its handle. -/
theorem Host.deliver_atOnce_of_stored {objects : HandleTable HostValue}
    (reaches : before.Reaches envelope Objects.library bytes)
    (asks : Objects.library.serve envelope.command bytes = Program.insert value)
    (inserted : before.1.objects.insert value = .ok (handle, objects)) :
    ((host.serving again).deliver envelope).EndsAtOnce before handle
      ({ before.1 with objects }, before.2) := by
  have routed : Settles (host.route again envelope) before fun outcome after =>
      outcome = .ok handle ∧ after = ({ before.1 with objects }, before.2) := by
    refine settles_route_of_reaches reaches ?_
    rw [asks]
    refine .of_insert (fun other next also => ?_) (fun fault refused => ?_)
    · cases inserted.symm.trans also
      exact ⟨rfl, rfl⟩
    · cases inserted.symm.trans refused
  obtain ⟨_, _, ends, rfl, rfl⟩ := routed
  have ends : ((host.serving again).route envelope).EndsAtOnce before _ _ := ends
  exact Reentry.deliver_atOnce ends

/-- A message that the library refuses is answered with no handle. -/
theorem Host.deliver_atOnce_of_refused {fault : Fault}
    (reaches : before.Reaches envelope Objects.library bytes)
    (asks : Objects.library.serve envelope.command bytes = Program.refuse fault) :
    ((host.serving again).deliver envelope).EndsAtOnce before 0
      (before.closing ⟨envelope, .error (failureFault envelope.library (.fault fault))⟩) := by
  have routed : Settles (host.route again envelope) before fun outcome after =>
      outcome = .error (failureFault envelope.library (.fault fault)) ∧ after = before := by
    refine settles_route_of_reaches reaches ?_
    rw [asks]
    exact .of_refuse ⟨rfl, rfl⟩
  obtain ⟨_, last, ends, rfl, same⟩ := routed
  obtain rfl : last = before := same
  have ends : ((host.serving again).route envelope).EndsAtOnce last _ _ := ends
  exact Reentry.deliver_atOnce ends

/-- A message that sends the bytes of a text asks for a value that keeps them. -/
theorem Objects.serve_text {command : UInt32} (text : String)
    (sent : command = Wire.ObjectCommand.newString.toWord ∨
      command = Wire.ObjectCommand.newBytes.toWord) :
    ∃ value : HostValue, value.Keeps (Text.Utf8.encode text) ∧
      Objects.library.serve command (Text.Utf8.encode text) = Program.insert value := by
  rcases sent with rfl | rfl
  · have decoded : decodeText (Text.Utf8.encode text) 0 = .ok text := decodeText_eq_ok_iff.mpr rfl
    refine ⟨.string text, HostValue.keeps_string text, ?_⟩
    rw [serve_toWord, serveCommand, decoded]
    rfl
  · exact ⟨.bytes _, HostValue.keeps_bytes text, serve_toWord _ _⟩

/-- Bytes that are no text are refused as one. -/
theorem Objects.serve_newString_of_ill (ill : ¬ Text.Utf8.WellFormed bytes) :
    ∃ fault, Objects.library.serve Wire.ObjectCommand.newString.toWord bytes =
      Program.refuse fault := by
  rw [serve_toWord, serveCommand]
  cases decoded : decodeText bytes 0 with
  | error fault => exact ⟨fault, rfl⟩
  | ok text => exact absurd ⟨text, decodeText_eq_ok_iff.mp decoded⟩ ill

theorem Handle.ne_null_of_unpinned (unpinned : HandleTable.pinnedCount ≤ handle.slot.toNat) :
    handle ≠ 0 := by
  rintro rfl
  exact absurd unpinned (by decide)

/-! ## There and back -/

/--
The bytes of a text go to the host and come back.  In a context that got wherever it is
from a new one, a message that sends bytes is answered at once, with a handle other than 0
exactly if they are the bytes of a text.  Wherever the context gets from there without
releasing the handle, every message that reads the handle gives the bytes back, whatever
the guest does when it is asked for room for them.
-/
theorem text_round_trip (host : Host) {id : UInt32} {past : List Context.Event}
    (reached : (Context.new host id).Evolves past before.1)
    (room : before.1.objects.place?.isSome)
    (reaches : before.Reaches envelope Objects.library bytes)
    (sent : envelope.command = Wire.ObjectCommand.newString.toWord ∨
      envelope.command = Wire.ObjectCommand.newBytes.toWord ∧ Text.Utf8.WellFormed bytes) :
    ∃ handle after,
      (∀ again, ((host.serving again).deliver envelope).EndsAtOnce before handle after) ∧
      (handle ≠ 0 ↔ Text.Utf8.WellFormed bytes) ∧
      ∀ events later reading bridge, handle ≠ 0 →
        after.1.Evolves events later.1 →
        (∀ released, .table (.released handle (some released)) ∉ events) →
        later.Reaches reading Objects.library (Wire.encodeWord handle) →
        reading.command = Wire.ObjectCommand.readString.toWord →
        later.1.bridge = some bridge → bridge.canReserve →
        ∀ again others, ReadsBack host again others reading bytes later := by
  by_cases well : Text.Utf8.WellFormed bytes
  · obtain ⟨text, rfl⟩ := well
    obtain ⟨value, keeps, asks⟩ := Objects.serve_text text (sent.imp_right And.left)
    obtain ⟨index, place⟩ := Option.isSome_iff_exists.mp room
    have wf := reached.wellFormed_of_new
    obtain ⟨objects, inserted, stored⟩ := HandleTable.insert_of_place wf place value
    have unpinned := (wf.place?_bounds stored.place).1
    refine ⟨_, _, fun again => Host.deliver_atOnce_of_stored reaches asks inserted,
      iff_of_true (Handle.ne_null_of_unpinned unpinned) ⟨text, rfl⟩, ?_⟩
    intro events later reading bridge _ evolves kept reads command bound exported again others
    have wfLater := evolves.wellFormed (wf.of_stored stored)
    have held := evolves.holds (wf.of_stored stored) stored.holds kept
    have found := (HandleTable.get_eq_ok_iff wfLater).mpr held
    exact Moment.Reads.readsBack
      ⟨reads, command, found, keeps, reaches.length_lt, bridge, bound, exported⟩
  · have command := sent.resolve_right fun bytesSent => well bytesSent.2
    obtain ⟨fault, asks⟩ := Objects.serve_newString_of_ill well
    rw [← command] at asks
    refine ⟨0, _, fun again => Host.deliver_atOnce_of_refused reaches asks,
      iff_of_false (fun stored => stored rfl) well, ?_⟩
    intro events later reading bridge stored
    exact absurd rfl stored

/-- A context with the text `hi` at the start of its memory. -/
def Moment.greeting : Moment :=
  .withLibrary (.owning .bare (.page 2 [104, 105]) true) Objects.library

/-- The context after it sent the text, with its handle at the start of the memory. -/
def Moment.asking : Moment :=
  .withLibrary (.withValue (.owning .bare (.page 2 (Wire.encodeWord 2)) true) (.string "hi"))
    Objects.library

/-- A guest that releases the handle 2 and grows its memory when it is asked for room. -/
def Reentry.forgetful : Reentry where
  call _ _ := do
    let _ ← Activity.release 2
    Activity.setMemory { pages := 2, limit := 2 }
    return .ok [.word 65536]
  route envelope := pure (.error (.unknownLibrary envelope.library))

/-- A text comes back although its handle is released while it is being read. -/
theorem text_round_trip_forgetful :
    ReadsBack Host.bare .forgetful (fun _ _ => True) ⟨2, 3, 0, 4⟩ [104, 105] Moment.asking ∧
      ∃ outcome middle,
        (Reentry.forgetful.call (.exported Wasm.Abi.reserveSpace) [.word 2]).EndsAmid
          (fun _ _ => True) Moment.asking outcome middle ∧
        middle.Roomy 2 outcome 65536 { pages := 2, limit := 2 } ∧
        middle.1.objects.isLive 2 = false := by
  have placed : Context.Aside { Context.new Host.bare mainContext with
      libraries := ⟨[Objects.library]⟩ } Moment.greeting.1 := ⟨rfl, rfl, rfl, fun _ => rfl⟩
  have reached : (Context.new Host.bare mainContext).Evolves _ Moment.greeting.1 :=
    (Context.Step.register Objects.library).evolves.trans (Context.Step.aside placed).evolves
  have sends : Moment.greeting.Reaches ⟨2, 0, 0, 2⟩ Objects.library [104, 105] :=
    Moment.reaches_iff.mpr ⟨rfl, Moment.payloadOf_of_page rfl rfl rfl rfl (by decide)⟩
  obtain ⟨handle, after, answered, -, back⟩ :=
    text_round_trip Host.bare reached rfl sends (.inl rfl)
  have asks : Objects.library.serve Wire.ObjectCommand.newString.toWord [104, 105] =
      Program.insert (.string "hi") := by
    have decoded : decodeText [104, 105] 0 = .ok "hi" := decodeText_eq_ok_iff.mpr rfl
    rw [Objects.serve_toWord, Objects.serveCommand, decoded]
    rfl
  have known : ((Host.bare.serving .forgetful).deliver ⟨2, 0, 0, 2⟩).EndsAtOnce Moment.greeting 2
      ({ Moment.greeting.1 with objects := Moment.asking.1.objects }, {}) :=
    Host.deliver_atOnce_of_stored sends asks rfl
  have sent : ((Host.bare.serving .forgetful).deliver ⟨2, 0, 0, 2⟩).EndsAmid (fun _ _ => True)
      Moment.greeting handle after := (answered .forgetful).endsAmid
  obtain ⟨rfl, rfl⟩ := known.endsAmid_iff.mp sent
  have moved : Context.Aside { Moment.greeting.1 with objects := Moment.asking.1.objects }
      Moment.asking.1 := ⟨rfl, rfl, rfl, fun _ => rfl⟩
  have reads : Moment.asking.Reaches ⟨2, 3, 0, 4⟩ Objects.library (Wire.encodeWord 2) :=
    Moment.reaches_iff.mpr ⟨rfl, Moment.payloadOf_of_page rfl rfl rfl rfl (by decide)⟩
  refine ⟨back [] Moment.asking ⟨2, 3, 0, 4⟩ ⟨false, true⟩ (by decide)
    (Context.Step.aside moved).evolves (fun _ none => absurd none List.not_mem_nil) reads rfl
    rfl rfl _ _, ?_⟩
  have called : (Reentry.forgetful.call (.exported Wasm.Abi.reserveSpace) [.word 2]).EndsAtOnce
      Moment.asking (.ok [.word 65536])
      ({ Moment.asking.1 with
          objects := (Moment.asking.1.objects.release 2).2
          home := .own { pages := 2, limit := 2 } }, {}) := rfl
  have fits : LinearMemory.fits { pages := 2, limit := 2 } 65536 2 := by
    rw [LinearMemory.fits_iff, LinearMemory.size]
    decide
  exact ⟨_, _, called.endsAmid, ⟨⟨_, rfl, rfl⟩, rfl, rfl, fits⟩, rfl⟩

end WasmBridge
