import WasmBridge.Proofs.Library.Walking

/-!
# Two ways to ask for a property

A guest asks for a property by the handle of its name, in a message to the control library, or
by the bytes of its name, in a message to the objects library.  Either way the table and the
heap alone say what comes of it, and they say the same.
-/

namespace WasmBridge

open Activity

variable {host : Host} {again : Reentry} {before beside : Moment} {envelope other : Wire.Envelope}
  {objects : HandleTable HostValue} {object key : Handle} {name : String} {fault : Fault}

/-! ## Faults of the table -/

/-- What a library names itself is replaced in faults for unknown commands only. -/
theorem Host.failureFault_fault (library : UInt32)
    (elsewhere : ∀ number command, fault ≠ .unknownCommand number command) :
    Host.failureFault library (.fault fault) = fault := by
  cases fault with
  | unknownCommand number command => exact absurd rfl (elsewhere number command)
  | _ => rfl

theorem Host.failureFault_of_get (library : UInt32) (missing : objects.get object = .error fault) :
    Host.failureFault library (.fault fault) = fault := by
  refine Host.failureFault_fault library fun number command same => ?_
  subst same
  unfold HandleTable.get at missing
  split at missing
  · split at missing
    · cases missing
    · split at missing <;> cases missing
  · cases missing

theorem Host.failureFault_of_insert {value : HostValue} (library : UInt32)
    (refused : objects.insert value = .error fault) :
    Host.failureFault library (.fault fault) = fault := by
  refine Host.failureFault_fault library fun number command same => ?_
  subst same
  unfold HandleTable.insert at refused
  split at refused
  · cases refused
  · dsimp only at refused
    split at refused <;> cases refused

/-- What a table refuses is reported as it is. -/
theorem Host.mapError_failureFault {α : Type} {outcome : Except Fault α} (library : UInt32)
    (neutral : ∀ fault, outcome = .error fault → Host.failureFault library (.fault fault) = fault) :
    (outcome.mapError .fault).mapError (Host.failureFault library) = outcome := by
  cases outcome with
  | ok answer => rfl
  | error fault => exact congrArg Except.error (neutral fault rfl)

/-! ## What comes of a property -/

namespace HandleTable

/-- What keeping a value answers with and what it makes of the table.  A value that is missing
and one that is null take no slot. -/
def keep (objects : HandleTable HostValue) :
    Option HostValue → Except Fault Handle × HandleTable HostValue
  | none | some .null => (.ok Handle.null, objects)
  | some value =>
    match objects.insert value with
    | .ok (handle, next) => (.ok handle, next)
    | .error fault => (.error fault, objects)

/-- What reading a property answers with and what it makes of the table. -/
def readProperty (objects : HandleTable HostValue) (heap : Heap) (object : Handle)
    (name : String) : Except Fault Handle × HandleTable HostValue :=
  match objects.get object with
  | .ok holder => objects.keep (heap.property? name holder)
  | .error fault => (.error fault, objects)

theorem keep_of_ne_null {value : HostValue} (proper : value ≠ .null) :
    objects.keep (some value) =
      match objects.insert value with
      | .ok (handle, next) => (.ok handle, next)
      | .error fault => (.error fault, objects) := by
  cases value with
  | null => exact absurd rfl proper
  | _ => rfl

/-- Under whatever number a library is addressed, it reports the same of a value. -/
theorem keep_reported (objects : HandleTable HostValue) (read : Option HostValue)
    (library : UInt32) :
    ((objects.keep read).1.mapError .fault).mapError (Host.failureFault library) =
      (objects.keep read).1 := by
  refine Host.mapError_failureFault library fun fault refused => ?_
  unfold keep at refused
  split at refused
  · cases refused
  · cases refused
  · split at refused
    · cases refused
    · next insertion =>
      cases refused
      exact Host.failureFault_of_insert library insertion

theorem readProperty_reported (objects : HandleTable HostValue) (heap : Heap) (object : Handle)
    (name : String) (library : UInt32) :
    ((objects.readProperty heap object name).1.mapError .fault).mapError
      (Host.failureFault library) = (objects.readProperty heap object name).1 := by
  unfold readProperty
  cases found : objects.get object with
  | ok holder => exact objects.keep_reported _ library
  | error fault => exact congrArg Except.error (Host.failureFault_of_get library found)

end HandleTable

/-- The moment after a property was read. -/
def Moment.havingRead (before : Moment) (object : Handle) (name : String) : Moment :=
  ({ before.1 with
    objects := (before.1.objects.readProperty before.2.heap object name).2 }, before.2)

namespace Host.CarriesOut

/-- A value is kept as the table says. -/
theorem store_eq (value : HostValue) :
    host.CarriesOut again (Objects.store value) before fun result after =>
      result = (before.1.objects.keep (some value)).1.mapError .fault ∧
        after = ({ before.1 with
          objects := (before.1.objects.keep (some value)).2 }, before.2) := by
  unfold Objects.store
  by_cases null : value = .null
  · subst null
    exact of_answer ⟨rfl, rfl⟩
  · have proper : value.isNull = false := by
      cases value with
      | null => exact absurd rfl null
      | _ => rfl
    rw [proper, if_neg Bool.false_ne_true, HandleTable.keep_of_ne_null null]
    refine of_insert (fun handle next inserted => ?_) (fun fault refused => ?_)
    · rw [inserted]
      exact ⟨rfl, rfl⟩
    · rw [refused]
      exact ⟨rfl, rfl⟩

/-- A property is read as the table and the heap say. -/
theorem readProperty_eq (object : Handle) (name : String) :
    host.CarriesOut again (Objects.readProperty object name) before fun result after =>
      result = (before.1.objects.readProperty before.2.heap object name).1.mapError .fault ∧
        after = before.havingRead object name := by
  unfold Moment.havingRead HandleTable.readProperty
  refine lookup_bind (fun holder found => ?_) (fun fault missing => ?_)
  · simp only [found]
    refine property_bind ?_
    cases before.2.heap.property? name holder with
    | none => exact of_answer ⟨rfl, rfl⟩
    | some value => exact store_eq value
  · rw [missing]
    exact ⟨rfl, rfl⟩

end Host.CarriesOut

/-! ## The two messages -/

/-- The message asks the control library for the property whose name is under a handle. -/
structure Moment.AsksByKey (moment : Moment) (envelope : Wire.Envelope)
    (object key : Handle) : Prop where
  commands : envelope.Commands .getProperty
  carried : moment.payloadOf envelope = .ok (Wire.encodeWords [object, key])

/-- A message by the handle of a name is answered as the table and the heap say. -/
theorem Moment.AsksByKey.route_atOnce (asks : before.AsksByKey envelope object key)
    (named : before.1.objects.get key = .ok (.string name)) :
    (host.route again envelope).run.EndsAtOnce before
      (before.1.objects.readProperty before.2.heap object name).1
      (before.havingRead object name) := by
  have served : Settles (host.control again .getProperty envelope) before fun outcome after =>
      outcome = (before.1.objects.readProperty before.2.heap object name).1 ∧
        after = before.havingRead object name := by
    have copied : (Host.payload envelope).run.EndsAtOnce before (before.payloadOf envelope)
        before := Host.payload_done
    have looked : (Attempt.lookup key).run.EndsAtOnce before (before.1.objects.get key) before :=
      rfl
    rw [asks.carried] at copied
    rw [named] at looked
    refine .bind_of_inspection copied (fun bytes same => ?_) nofun
    cases same
    rw [Wire.decodeTwo_eq_ok_iff.mpr rfl]
    refine .bind_of_inspection (.of_except _) (fun words same => ?_) nofun
    cases same
    refine .bind_of_inspection looked (fun value same => ?_) nofun
    cases same
    dsimp only
    rw [Host.serve_eq]
    refine .adapt ((Host.CarriesOut.readProperty_eq object name).mono fun result after read => ?_)
    rw [read.1]
    exact ⟨HandleTable.readProperty_reported _ _ _ _ _, read.2⟩
  exact (Host.settles_route_of_commands asks.commands served).endsAtOnce

/-- A message by the bytes of a name is answered as the table and the heap say. -/
theorem Moment.Asks.route_atOnce (asks : before.Asks envelope object name) :
    (host.route again envelope).run.EndsAtOnce before
      (before.1.objects.readProperty before.2.heap object name).1
      (before.havingRead object name) := by
  have routed : Settles (host.route again envelope) before fun outcome after =>
      outcome = (before.1.objects.readProperty before.2.heap object name).1 ∧
        after = before.havingRead object name := by
    refine Host.settles_route_of_reaches asks.reaches ?_
    rw [asks.addressed, Objects.serve_toWord, Objects.serveCommand_getNamed]
    refine (Host.CarriesOut.readProperty_eq object name).mono fun result after read => ?_
    rw [read.1]
    exact ⟨HandleTable.readProperty_reported _ _ _ _ _, read.2⟩
  exact routed.endsAtOnce

/--
The two ways to ask for a property agree.  From moments with the same table and the same
heap, a message by a live handle of a name and one by the bytes of the name have the same
outcome, an answer or a fault, leave the same table, and change nothing else.
-/
theorem property_messages_agree (host : Host) (named : before.1.objects.get key = .ok (.string name))
    (table : beside.1.objects = before.1.objects) (heap : beside.2.heap = before.2.heap)
    (byKey : before.AsksByKey envelope object key) (byName : beside.Asks other object name) :
    ∃ outcome objects,
      (outcome, objects) = before.1.objects.readProperty before.2.heap object name ∧
      (∀ again, (host.route again envelope).run.EndsAtOnce before outcome
        ({ before.1 with objects }, before.2)) ∧
      ∀ again, (host.route again other).run.EndsAtOnce beside outcome
        ({ beside.1 with objects }, beside.2) := by
  refine ⟨_, _, rfl, fun again => byKey.route_atOnce named, fun again => ?_⟩
  have ends : (host.route again other).run.EndsAtOnce beside _ _ := byName.route_atOnce
  unfold Moment.havingRead at ends
  rw [table, heap] at ends
  exact ends

/-- A context with the objects library, with a name under handle 2 and with bytes at the start
of its memory. -/
def Moment.labelled (bytes : Bytes) : Moment :=
  .withHeap (.withLibrary (.withValue (.owning .offering (.page 1 bytes) false)
    (.string "größe")) Objects.library) ⟨#[[("größe", .number 7)]]⟩ #[]

/-- The bytes of a message for a property by the bytes of its name. -/
def Moment.sizeByName : Bytes :=
  Wire.encodeWord Handle.global ++ Text.Utf8.encode "größe"

/-- Either way the property of a name that is not ASCII gets the next handle. -/
theorem property_messages_agree_labelled :
    ∃ objects,
      (Host.offering.route Host.trapping ⟨1, 8, 0, 8⟩).run.EndsAtOnce
        (Moment.labelled (Wire.encodeWords [Handle.global, 2])) (.ok 3)
        ({ (Moment.labelled (Wire.encodeWords [Handle.global, 2])).1 with objects },
          (Moment.labelled []).2) ∧
      (Host.offering.route Host.trapping ⟨2, 6, 0, 11⟩).run.EndsAtOnce
        (Moment.labelled Moment.sizeByName) (.ok 3)
        ({ (Moment.labelled Moment.sizeByName).1 with objects }, (Moment.labelled []).2) := by
  have named : (Moment.labelled (Wire.encodeWords [Handle.global, 2])).1.objects.get 2 =
      .ok (.string "größe") := rfl
  have table : (Moment.labelled Moment.sizeByName).1.objects =
      (Moment.labelled (Wire.encodeWords [Handle.global, 2])).1.objects := rfl
  have byKey : (Moment.labelled (Wire.encodeWords [Handle.global, 2])).AsksByKey ⟨1, 8, 0, 8⟩
      Handle.global 2 :=
    ⟨⟨rfl, rfl⟩, Moment.payloadOf_of_page rfl rfl rfl rfl (by decide)⟩
  have byName : (Moment.labelled Moment.sizeByName).Asks ⟨2, 6, 0, 11⟩ Handle.global "größe" :=
    ⟨rfl, Moment.reaches_iff.mpr ⟨rfl, Moment.payloadOf_of_page rfl rfl rfl rfl (by decide)⟩⟩
  obtain ⟨outcome, objects, same, first, second⟩ :=
    property_messages_agree Host.offering named table rfl byKey byName
  cases same
  exact ⟨_, first Host.trapping, second Host.trapping⟩

end WasmBridge
