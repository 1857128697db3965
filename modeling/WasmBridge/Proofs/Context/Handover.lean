import WasmBridge.Proofs.Context.Fixtures
import WasmBridge.Proofs.Context.Instances
import WasmBridge.Proofs.Text.Utf8

/-!
# Handing bytes over

The guest is asked for room and may do anything meanwhile: write to its memory, let it grow,
send messages, trap.  Whatever it did, the bytes are then put where it said if they fit into
the memory as it is by then, and nothing is written otherwise.
-/

namespace WasmBridge

open Activity

variable {host : Host} {again : Reentry} {others : Shared → Shared → Prop}
  {before middle after : Moment} {bridge : Bridge} {memory : LinearMemory} {bytes : Bytes}
  {outcome : Except Guest.Trap (List Wasm.Value)} {result : Except Fault GuestRange}
  {range : GuestRange}

/-- Whatever a call of the guest does, the context has the instance that it had. -/
def Reentry.KeepsInstance (again : Reentry) (others : Shared → Shared → Prop) : Prop :=
  ∀ designator args before outcome after,
    (again.call designator args).EndsAmid others before outcome after → before.1.Keeps after.1

theorem Host.keepsInstance_reentry (host : Host) (others : Shared → Shared → Prop)
    (depth : Nat) : (host.reentry depth).KeepsInstance others :=
  fun designator args before outcome after ends =>
    ((host.keepsAmid_of_reentry others depth).1 designator args before outcome after ends).context

/-- What comes of bytes, by what came of asking the guest for room for them. -/
inductive HandsOver (bytes : Bytes) (middle : Moment) :
    Except Guest.Trap (List Wasm.Value) → Except Fault GuestRange → Moment → Prop where
  | trapped (trap : Guest.Trap) :
      HandsOver bytes middle (.error trap) (.error (.guestTrap Wasm.Abi.reserveSpace trap.text))
        middle
  | stored {results : List Wasm.Value} {memory : LinearMemory}
      (found : middle.memory? = some memory)
      (fits : (Guest.roomAt results).toNat + bytes.length ≤ memory.size) :
      HandsOver bytes middle (.ok results)
        (.ok ⟨Guest.roomAt results, UInt32.ofNat bytes.length⟩)
        (middle.withMemory (memory.put (Guest.roomAt results).toNat bytes))
  | outside {results : List Wasm.Value} {memory : LinearMemory}
      (found : middle.memory? = some memory)
      (beyond : memory.size < (Guest.roomAt results).toNat + bytes.length) :
      HandsOver bytes middle (.ok results)
        (.error (.outOfBounds (Guest.roomAt results).toNat bytes.length memory.size)) middle

/-- The bytes are where the range says and can be read there, as a text if they are one.
Nothing but them was written. -/
structure Moment.Receives (middle after : Moment) (bytes : Bytes) (range : GuestRange) : Prop where
  length : range.size.toNat = bytes.length
  handed : ∃ memory, middle.memory? = some memory ∧
    Handed memory range.offset bytes middle after
  viewed : (Attempt.view range.offset range.size).run.EndsAtOnce after (.ok bytes) after
  read : ∀ text, bytes = Text.Utf8.encode text →
    (Attempt.readText range.offset range.size).run.EndsAtOnce after (.ok text) after

/-! ## By what came of asking -/

theorem handOver_eq_iff (bound : middle.1.bridge = some bridge)
    (found : middle.memory? = some memory) :
    (result, after) = middle.handOver bytes outcome ↔
      HandsOver bytes middle outcome result after := by
  cases outcome with
  | error trap =>
      constructor
      · intro handed
        cases handed
        exact .trapped trap
      · intro hands
        cases hands
        rfl
  | ok results =>
      simp only [Moment.handOver, bound, found, LinearMemory.fits_iff]
      split
      next fits =>
        constructor
        · intro handed
          cases handed
          exact .stored found fits
        · intro hands
          cases hands with
          | stored here _ =>
              cases found.symm.trans here
              rfl
          | outside here beyond =>
              cases found.symm.trans here
              exact absurd fits (Nat.not_le_of_lt beyond)
      next wide =>
        constructor
        · intro handed
          cases handed
          exact .outside found (Nat.lt_of_not_le wide)
        · intro hands
          cases hands with
          | stored here fits =>
              cases found.symm.trans here
              exact absurd fits wide
          | outside here _ =>
              cases found.symm.trans here
              rfl

theorem HandsOver.receives (hands : HandsOver bytes middle outcome (.ok range) after)
    (bound : middle.1.bridge = some bridge) (short : bytes.length < UInt32.size) :
    middle.Receives after bytes range := by
  cases hands with
  | @stored results memory found fits =>
      have counted : (UInt32.ofNat bytes.length).toNat = bytes.length :=
        UInt32.toNat_ofNat_of_lt' short
      have still : (middle.withMemory (memory.put (Guest.roomAt results).toNat bytes)).1.bridge =
          some bridge := by
        rw [(middle.frame_withMemory _).2.2.2, bound]
      have there : (middle.withMemory (memory.put (Guest.roomAt results).toNat bytes)).memory? =
          some (memory.put (Guest.roomAt results).toNat bytes) := Moment.memory?_withMemory found
      have viewed : bridge.view (memory.put (Guest.roomAt results).toNat bytes)
          (Guest.roomAt results) (UInt32.ofNat bytes.length) = .ok bytes := by
        rw [Bridge.view_eq, counted, LinearMemory.slice_put, if_pos]
        rw [LinearMemory.fits_iff, LinearMemory.size_put]
        exact fits
      refine ⟨counted, ⟨memory, found, handed_withMemory found _ bytes⟩, ?_, fun text same => ?_⟩
      · rw [← viewed]
        exact Attempt.view_atOnce still there _ _
      · have decoded : bridge.readText (memory.put (Guest.roomAt results).toNat bytes)
            (Guest.roomAt results) (UInt32.ofNat bytes.length) = .ok text := by
          rw [Bridge.readText_eq, viewed]
          exact decodeText_eq_ok_iff.mpr same
        rw [← decoded]
        exact Attempt.readText_atOnce still there _ _

/-! ## In any way the guest makes room -/

/--
Bytes are handed over in one way, whatever the guest does when it is asked for room.  Without
the export for that they are not, and nothing is changed; nor are more bytes than a word can
count.  Otherwise the guest is asked once.  If it traps, nothing is written; else the bytes are
put where it said if they fit into the memory as it left it, and nothing is written if they do
not.  What was put is what can be read there.
-/
theorem bytes_reserved_then_written (host : Host) (others : Shared → Shared → Prop) :
    (∀ depth, (host.reentry depth).KeepsInstance others) ∧
    ∀ (again : Reentry) (before : Moment) (bridge : Bridge) (memory : LinearMemory),
      again.KeepsInstance others → before.1.bridge = some bridge →
      before.memory? = some memory →
      (∀ text, again.writeText text = again.writeBytes (Text.Utf8.encode text)) ∧
      ∀ bytes : Bytes,
        (bridge.canReserve = false →
          (again.writeBytes bytes).run.EndsAtOnce before
            (.error (.missingExport Wasm.Abi.reserveSpace)) before) ∧
        (bridge.canReserve = true → UInt32.size ≤ bytes.length →
          (again.writeBytes bytes).run.EndsAtOnce before
            (.error (.outOfBounds 0 bytes.length memory.size)) before) ∧
        (bridge.canReserve = true → bytes.length < UInt32.size →
          (∀ result after,
            (again.writeBytes bytes).run.EndsAmid others before result after ↔
              ∃ outcome middle,
                (again.call (.exported Wasm.Abi.reserveSpace)
                  [.word (UInt32.ofNat bytes.length)]).EndsAmid others before outcome middle ∧
                HandsOver bytes middle outcome result after) ∧
          ∀ outcome middle,
            (again.call (.exported Wasm.Abi.reserveSpace)
              [.word (UInt32.ofNat bytes.length)]).EndsAmid others before outcome middle →
            (∃ result after, HandsOver bytes middle outcome result after) ∧
            ∀ range after, HandsOver bytes middle outcome (.ok range) after →
              middle.Receives after bytes range) := by
  refine ⟨host.keepsInstance_reentry others, ?_⟩
  intro again before bridge memory keeps bound found
  refine ⟨fun _ => rfl, fun bytes => ⟨?_, ?_, fun exported short => ⟨?_, ?_⟩⟩⟩
  · exact fun missing => Reentry.writeBytes_atOnce_of_missing bound found missing
  · exact fun exported long => Reentry.writeBytes_atOnce_of_long bound found exported long
  · intro result after
    rw [Reentry.endsAmid_writeBytes_iff bound found exported short]
    refine exists_congr fun outcome => exists_congr fun middle => and_congr_right fun called => ?_
    have kept := keeps _ _ _ _ _ called
    obtain ⟨later, there⟩ := kept.exists_memory found
    exact handOver_eq_iff (kept.bridge.trans bound) there
  · intro outcome middle called
    have kept := keeps _ _ _ _ _ called
    obtain ⟨later, there⟩ := kept.exists_memory found
    refine ⟨⟨_, _, (handOver_eq_iff (kept.bridge.trans bound) there).mp rfl⟩, ?_⟩
    intro range after hands
    exact hands.receives (kept.bridge.trans bound) short

/-- A host whose guest lets its memory grow by a page when it is asked for room, and answers
with the start of the second page. -/
def Host.growing : Host :=
  .ofModule "growing" {
    memory := some { type := { minimum := 1, maximum := some 2 }, exported := some Wasm.Abi.memory }
    functions := [{
      name := Wasm.Abi.reserveSpace
      type := Wasm.Abi.reserveSpaceType
      body := [.compute (.grow (.word 1))]
      answers := [.word 65536] }] } .exported

/-- A context of such a host, before the memory has grown. -/
def Moment.small : Moment :=
  .owning .growing (.page 2 []) true

/-- Bytes go where there was no memory before the guest was asked. -/
theorem bytes_reserved_growing :
    ∃ after, ((Host.growing.reentry 2).writeBytes [104, 105]).run.EndsAmid Eq Moment.small
        (.ok ⟨65536, 2⟩) after ∧
      (Attempt.readText 65536 2).run.EndsAtOnce after (.ok "hi") after := by
  obtain ⟨keeps, hands⟩ := bytes_reserved_then_written Host.growing Eq
  obtain ⟨-, all⟩ := hands (Host.growing.reentry 2) Moment.small ⟨false, true⟩
    { pages := 1, limit := 2 } (keeps 2) rfl rfl
  obtain ⟨-, -, asked⟩ := all [104, 105]
  obtain ⟨ends, received⟩ := asked rfl (by decide)
  have called : ((Host.growing.reentry 2).call (.exported Wasm.Abi.reserveSpace)
      [.word (UInt32.ofNat 2)]).EndsAtOnce Moment.small (.ok [.word 65536])
      ({ Moment.small.1 with home := .own { pages := 2, limit := 2 } }, {}) := rfl
  have stored : HandsOver [104, 105]
      ({ Moment.small.1 with home := .own { pages := 2, limit := 2 } }, {})
      (.ok [.word 65536]) (.ok ⟨65536, 2⟩) _ := .stored rfl (by decide)
  exact ⟨_, (ends _ _).mpr ⟨_, _, called.endsAmid, stored⟩,
    ((received _ _ called.endsAmid).2 _ _ stored).read "hi" rfl⟩

end WasmBridge
