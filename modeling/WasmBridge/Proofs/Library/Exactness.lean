import WasmBridge.Proofs.Library.Driven

/-!
# Exact answers

A handle that answers a message stands for what the message results in, and for nothing
that the context knew before.  Handle 0 answers if there is nothing to stand for, and then
nothing changed.
-/

namespace WasmBridge

open Activity

variable {host : Host} {others : Shared → Shared → Prop} {before after : Moment}
  {envelope : Wire.Envelope}

/-- How a message is answered with a handle, exactly. -/
structure ExactAnswer (before : Moment) (envelope : Wire.Envelope) (answer : Handle)
    (after : Moment) : Prop where
  /-- A handle was not live before.  It now stands for what the message results in, which is
  not null, and no other handle stands for anything else than before. -/
  stored : answer ≠ Handle.null → before.1.objects.isLive answer = false ∧
    HandleTable.pinnedCount ≤ answer.slot.toNat ∧
    ∃ value, before.ResultsIn envelope (some value) ∧ value ≠ .null ∧
      HandleTable.Stored before.1.objects value answer after.1.objects ∧
      ∀ handle held, after.1.objects.get handle = .ok held ↔
        if handle = answer then held = value else before.1.objects.get handle = .ok held
  /-- No handle is the answer when there is no value, the value is null, or the message
  fails; the table is as before. -/
  nothing : answer = Handle.null → after.1.objects = before.1.objects ∧
    (before.ResultsIn envelope none ∨ before.ResultsIn envelope (some .null) ∨
      (∀ value, ¬ before.ResultsIn envelope value) ∨ before.1.objects.place? = none)
  /-- The global object is never the answer. -/
  notGlobal : answer ≠ Handle.global

theorem ExactAnswer.of_answered {outcome : Except Fault Handle}
    (wf : before.1.objects.WellFormed .null (.object host.globalObject))
    (answered : Answered (before.ResultsIn envelope) before outcome after) :
    ExactAnswer before envelope (Receipt.answer ⟨envelope, outcome⟩)
      (after.closing ⟨envelope, outcome⟩) := by
  have apart : Handle.null ≠ Handle.global := by decide
  cases answered with
  | @stored value handle objects shared given proper inserted =>
      have put := HandleTable.stored_of_insert wf inserted
      have unpinned := (wf.place?_bounds put.place).1
      have proper_handle : handle ≠ Handle.null := Handle.ne_null_of_unpinned unpinned
      refine ⟨fun _ => ⟨put.isLive wf, unpinned, value, given, proper, put, ?_⟩,
        fun null => absurd null proper_handle, ?_⟩
      · exact fun _ _ => put.get_eq_ok_iff wf
      · rintro rfl
        exact absurd unpinned (by decide)
  | nothing given =>
      refine ⟨fun handle => absurd rfl handle, fun _ => ⟨rfl, ?_⟩, apart⟩
      rcases given with missing | null
      · exact .inl missing
      · exact .inr (.inl null)
  | refused reason =>
      refine ⟨fun handle => absurd rfl handle, fun _ => ⟨rfl, ?_⟩, apart⟩
      rcases reason with fails | ⟨value, fault, refused⟩
      · exact .inr (.inr (.inl fails))
      · refine .inr (.inr (.inr ?_))
        cases place : before.1.objects.place? with
        | none => rfl
        | some index =>
            obtain ⟨next, inserted, -⟩ := HandleTable.insert_of_place wf place value
            cases refused.symm.trans inserted

/-- The message is one that stores what it carries. -/
def Wire.Envelope.Stores (envelope : Wire.Envelope) : Prop :=
  envelope.command = Wire.ObjectCommand.newString.toWord ∨
    envelope.command = Wire.ObjectCommand.newBytes.toWord

/-- A message that stores what it carries results in a value other than null. -/
theorem Moment.ResultsIn.of_stores {result : Option HostValue} (stores : envelope.Stores)
    (results : before.ResultsIn envelope result) : ∃ value, result = some value ∧ value ≠ .null := by
  cases results with
  | objects reaches addressed gives =>
      unfold Wire.Envelope.Stores at stores
      rw [addressed] at stores
      rcases stores with same | same
      · cases Wire.ObjectCommand.toWord_injective same
        cases gives with
        | newString text => exact ⟨_, rfl, nofun⟩
      · cases Wire.ObjectCommand.toWord_injective same
        cases gives with
        | newBytes bytes => exact ⟨_, rfl, nofun⟩
  | property control addressed =>
      unfold Wire.Envelope.Stores at stores
      rw [addressed] at stores
      exact absurd stores (by decide)

/-- A message that stores what it carries is answered with no handle only if it fails. -/
theorem Answered.eq_null_iff {outcome : Except Fault Handle}
    (wf : before.1.objects.WellFormed .null (.object host.globalObject)) (stores : envelope.Stores)
    (answered : Answered (before.ResultsIn envelope) before outcome after) :
    Receipt.answer ⟨envelope, outcome⟩ = Handle.null ↔ ∃ fault, outcome = .error fault := by
  cases answered with
  | stored given proper inserted =>
      have put := HandleTable.stored_of_insert wf inserted
      refine iff_of_false (Handle.ne_null_of_unpinned (wf.place?_bounds put.place).1) ?_
      rintro ⟨fault, impossible⟩
      cases impossible
  | nothing given =>
      rcases given with missing | null
      · obtain ⟨value, impossible, -⟩ := missing.of_stores stores
        cases impossible
      · obtain ⟨value, same, proper⟩ := null.of_stores stores
        cases same
        exact absurd rfl proper
  | refused reason => exact iff_of_true rfl ⟨_, rfl⟩

/--
In a context that messages to the control library and to the objects library have driven
wherever it is, no slot beyond the pinned ones holds null.  There every message that is
answered with a handle is answered at once and exactly; one that stores what it carries is
answered with no handle exactly if it fails.
-/
theorem handle_answers_exact {id : UInt32} {shared : Shared}
    (driven : Driven host others (Context.new host id, shared) before) :
    (∀ index generation, HandleTable.pinnedCount ≤ index →
      before.1.objects.slots[index]? ≠ some ⟨generation, some .null⟩) ∧
    ∀ again envelope, before.AsksForHandle envelope → ∃ outcome after,
      (host.route again envelope).run.EndsAtOnce before outcome after ∧
      ((host.serving again).deliver envelope).EndsAtOnce before
        (Receipt.answer ⟨envelope, outcome⟩) (after.closing ⟨envelope, outcome⟩) ∧
      ExactAnswer before envelope (Receipt.answer ⟨envelope, outcome⟩)
        (after.closing ⟨envelope, outcome⟩) ∧
      (envelope.Stores →
        (Receipt.answer ⟨envelope, outcome⟩ = Handle.null ↔ ∃ fault, outcome = .error fault)) := by
  refine ⟨fun index generation unpinned null => ?_, fun again envelope asks => ?_⟩
  · exact driven.no_null index generation _ unpinned null rfl
  · obtain ⟨outcome, after, ends, answered⟩ := Host.settles_route_of_asksForHandle asks
    have routed : ((host.serving again).route envelope).EndsAtOnce before outcome after := ends
    exact ⟨outcome, after, ends, Reentry.deliver_atOnce routed,
      .of_answered driven.wellFormed answered, fun stores =>
        answered.eq_null_iff driven.wellFormed stores⟩

def Host.offering : Host :=
  { Host.bare with catalog := Objects.standardCatalog }

/-- A context with the name of the objects library at the start of its memory. -/
def Moment.naming : Moment :=
  .owning .offering (.page 1 (Text.Utf8.encode Objects.libraryName)) false

/-- The context after it registered the library. -/
def Moment.registered : Moment :=
  ((Moment.naming.withLibrary Objects.library).1,
    { log := #[(mainContext, .libraryRegistered mainContext Objects.libraryName 2)] })

/-- A context that registered the objects library stores the bytes of its name. -/
theorem handle_answers_exact_name :
    ∃ after, ((Host.offering.serving Host.trapping).deliver ⟨2, 5, 0, 13⟩).EndsAtOnce
        Moment.registered 2 after ∧
      ExactAnswer Moment.registered ⟨2, 5, 0, 13⟩ 2 after := by
  have placed : (Context.new Host.offering mainContext).Aside Moment.naming.1 :=
    ⟨rfl, rfl, rfl, fun _ => rfl⟩
  have carried : Moment.naming.payloadOf ⟨1, 0, 0, 13⟩ =
      .ok (Text.Utf8.encode Objects.libraryName) :=
    Moment.payloadOf_of_page rfl rfl rfl rfl (by decide)
  have registers : (Host.offering.route Host.trapping ⟨1, 0, 0, 13⟩).run.EndsAtOnce Moment.naming
      (.ok 2) Moment.registered := Host.newLibrary_atOnce rfl rfl carried rfl
  have driven : Driven Host.offering (fun _ _ => True)
      (Context.new Host.offering mainContext, {}) Moment.registered := by
    refine .trans (.aside placed) (.message (fun library resolved => ?_) ?_ registers.endsAmid)
    · cases (Registry.resolve_of_isControl _ rfl).symm.trans resolved
    · intro designator args outcome middle called
      obtain ⟨-, rfl⟩ := endsAmid_pure_iff.mp called
      exact .aside (.refl _)
  obtain ⟨outcome, after, -, delivered, exact, -⟩ := (handle_answers_exact driven).2 Host.trapping
    ⟨2, 5, 0, 13⟩ (.inl ⟨rfl, .newBytes, by decide, rfl⟩)
  have reaches : Moment.registered.Reaches ⟨2, 5, 0, 13⟩ Objects.library
      (Text.Utf8.encode Objects.libraryName) :=
    ⟨rfl, Moment.payloadOf_eq_ok_iff.mp carried⟩
  have stored : ((Host.offering.serving Host.trapping).deliver ⟨2, 5, 0, 13⟩).EndsAtOnce
      Moment.registered 2 _ :=
    Host.deliver_atOnce_of_stored reaches (Objects.serve_toWord .newBytes _) rfl
  have sent : ((Host.offering.serving Host.trapping).deliver ⟨2, 5, 0, 13⟩).EndsAmid
      (fun _ _ => True) Moment.registered _ _ := delivered.endsAmid
  have same := (stored.endsAmid_iff.mp sent).1
  rw [same] at delivered exact
  exact ⟨_, delivered, exact⟩

end WasmBridge
