import Mathlib.Data.List.Induction
import WasmBridge.Proofs.Context.Delivery
import WasmBridge.Proofs.Context.Histories
import WasmBridge.Proofs.Lists

/-!
# Numbers of libraries

A context numbers its libraries from 2 on, in the order in which they are registered.  Whatever
else it does leaves its libraries as they are, so the numbers are not reused and stand for the
same libraries ever after.
-/

namespace WasmBridge

open Activity

/-! ## Catalogs -/

/-- The catalog of libraries that were offered under names, in order. -/
def Catalog.offering (offers : List (String × Library)) : Catalog :=
  offers.foldl (fun catalog (name, library) => catalog.insertAs name library) []

/-- The library that was offered last under a name. -/
def Catalog.lastOffer? (offers : List (String × Library)) (name : String) : Option Library :=
  (offers.reverse.find? fun (other, _) => other = name).map Prod.snd

/-- A library is found by the name that it was offered under, whatever it calls itself. -/
theorem Catalog.find_offering (offers : List (String × Library)) (name : String) :
    (Catalog.offering offers).find name =
      match Catalog.lastOffer? offers name with
      | some library => .ok library
      | none => .error (.unknownLibraryName name) := by
  unfold Catalog.offering Catalog.lastOffer?
  induction offers using List.reverseRecOn with
  | nil => rfl
  | append_singleton offers offer ih =>
      obtain ⟨other, library⟩ := offer
      rw [List.foldl_append, List.reverse_append, List.reverse_singleton, List.singleton_append,
        List.find?_cons]
      by_cases same : other = name
      · subst same
        simpa using Catalog.find_insertAs _ other library
      · simpa [same, Catalog.find, Catalog.insertAs, Fields.get?_set_of_ne (Ne.symm same)] using ih

namespace Registry

variable {registry : Registry} {library : Library} {number : UInt32} {fault : Fault}

theorem nextId_eq (registry : Registry) :
    registry.nextId = UInt32.ofNat (registry.entries.length + 2) := by
  rw [nextId, UInt32.ofNat_add, UInt32.add_comm]
  rfl

theorem resolve_eq (registry : Registry) (number : UInt32) :
    registry.resolve number =
      if number.toNat < 2 then .error (.unknownLibrary number)
      else match registry.entries[number.toNat - 2]? with
        | some library => .ok library
        | none => .error (.unknownLibrary number) := by
  unfold resolve
  have below : number < Wire.firstLibrary ↔ number.toNat < 2 := UInt32.lt_iff_toNat_lt
  by_cases small : number.toNat < 2
  · rw [if_pos small, if_pos (below.mpr small)]
  · have reached : Wire.firstLibrary ≤ number := by
      rw [UInt32.le_iff_toNat_le]
      exact Nat.not_lt.mp small
    rw [if_neg small, if_neg (fun less => small (below.mp less)),
      UInt32.toNat_sub_of_le _ _ reached]
    rfl

/-- The library at a place has the place, counted from 2 on, for its number. -/
theorem resolve_of_place {place : Nat} (found : registry.entries[place]? = some library)
    (numbered : number.toNat = place + 2) : registry.resolve number = .ok library := by
  rw [resolve_eq, if_neg (by omega), numbered, Nat.add_sub_cancel, found]

theorem resolve_of_outside
    (outside : number.toNat < 2 ∨ registry.entries.length + 2 ≤ number.toNat) :
    registry.resolve number = .error (.unknownLibrary number) := by
  rw [resolve_eq]
  split
  · rfl
  · rw [List.getElem?_eq_none (by omega)]

theorem getElem?_listing (registry : Registry) (place : Nat) :
    registry.listing[place]? =
      registry.entries[place]?.map fun library => (UInt32.ofNat (place + 2), library.name) := by
  rw [listing, List.getElem?_map, List.getElem?_zipIdx]
  cases registry.entries[place]? with
  | none => rfl
  | some library =>
      have numbered : Wire.firstLibrary + UInt32.ofNat place = UInt32.ofNat (place + 2) := by
        rw [UInt32.ofNat_add, UInt32.add_comm]
        rfl
      rw [Option.map_some, Nat.zero_add]
      exact congrArg (fun number => some (number, library.name)) numbered

end Registry

/-! ## Registering -/

variable {host : Host} {again : Reentry} {others : Shared → Shared → Prop}
  {before middle after : Moment} {envelope : Wire.Envelope} {library : Library} {depth : Nat}
  {ofGuest : Prop} {α : Type}

/-- The payload that a message finds, as text. -/
def Moment.textOf (moment : Moment) (envelope : Wire.Envelope) : Except Fault String := do
  let bytes ← moment.payloadOf envelope
  decodeText bytes envelope.pointer

/-- The library that a message asks for, or what is wrong with the message. -/
def Host.wanted (host : Host) (moment : Moment) (envelope : Wire.Envelope) :
    Except Fault Library := do
  let name ← moment.textOf envelope
  host.catalog.find name

theorem Host.payloadText_atOnce :
    (Host.payloadText envelope).run.EndsAtOnce before (before.textOf envelope) before := by
  have copied : (Host.payload envelope).run.EndsAtOnce before (before.payloadOf envelope)
      before := payload_done
  unfold Moment.textOf
  cases carried : before.payloadOf envelope with
  | error fault => exact .run_bind_error (carried ▸ copied)
  | ok bytes => exact .run_bind (carried ▸ copied) (.of_except _)

/-- The moment after a library was registered, and perhaps reported. -/
def Moment.Registers (before : Moment) (library : Library) (after : Moment) : Prop :=
  ∃ log, after =
    ({ before.1 with libraries := ⟨before.1.libraries.entries ++ [library]⟩ },
      { before.2 with log })

/-- The host registers a library under the next number. -/
theorem Activity.register_atOnce (before : Moment) (library : Library) :
    (Activity.register library).EndsAtOnce before before.1.libraries.nextId
      ({ before.1 with libraries := ⟨before.1.libraries.entries ++ [library]⟩ }, before.2) :=
  rfl

/-- A message for a library ends at once: the library that it asks for is registered under the
next number, or nothing changes. -/
theorem Host.settles_route_newLibrary (asks : envelope.Commands .newLibrary) :
    Settles (host.route again envelope) before fun outcome after =>
      outcome = (host.wanted before envelope).map (fun _ => before.1.libraries.nextId) ∧
      (∀ library, host.wanted before envelope = .ok library → before.Registers library after) ∧
      ∀ fault, host.wanted before envelope = .error fault → after = before := by
  refine settles_route_of_commands asks ?_
  refine .bind_of_inspection payloadText_atOnce (fun name read => ?_) (fun fault lost => ?_)
  · have found : host.wanted before envelope = host.catalog.find name := by
      rw [wanted, read]
      rfl
    rw [found]
    refine .bind_of_inspection (.of_except _) (fun library offered => ?_) (fun fault none => ?_)
    · rw [offered]
      refine ⟨.ok before.1.libraries.nextId,
        ({ before.1 with libraries := (before.1.libraries.register library).2 },
          { before.2 with
            log := before.2.log.push (before.1.id,
              .libraryRegistered before.1.id name before.1.libraries.nextId) }),
        rfl, rfl, fun other same => ?_, nofun⟩
      cases same
      exact ⟨_, rfl⟩
    · rw [none]
      exact ⟨rfl, nofun, fun _ _ => rfl⟩
  · rw [wanted, lost]
    exact ⟨rfl, nofun, fun _ _ => rfl⟩

/-- A try to register a library: what was wanted, the number that was next just before, and what
came of it. -/
structure Enrolment where
  wanted : Except Fault Library
  next : UInt32
  outcome : Except Fault UInt32

/-- The number that was given away and the library that it was given to. -/
def Enrolment.granted? (attempt : Enrolment) : Option (UInt32 × Library) :=
  match attempt.outcome, attempt.wanted with
  | .ok number, .ok library => some (number, library)
  | _, _ => none

/-- The numbers that were given away, in order. -/
def granted (attempts : List Enrolment) : List (UInt32 × Library) :=
  attempts.filterMap Enrolment.granted?

/-- A context goes from a moment to another and libraries are registered in it, by the host and by
messages of the guest.  In between anything may happen that leaves its libraries as they are. -/
inductive Enrols (host : Host) (others : Shared → Shared → Prop) :
    Moment → List Enrolment → Moment → Prop where
  | aside {before after : Moment} (same : after.1.libraries = before.1.libraries) :
      Enrols host others before [] after
  | direct {before after : Moment} {library : Library} {number : UInt32}
      (ends : (Activity.register library).EndsAmid others before number after) :
      Enrols host others before [⟨.ok library, before.1.libraries.nextId, .ok number⟩] after
  | message {again : Reentry} {envelope : Wire.Envelope} {before after : Moment}
      {outcome : Except Fault UInt32} (asks : envelope.Commands .newLibrary)
      (ends : (host.route again envelope).run.EndsAmid others before outcome after) :
      Enrols host others before
        [⟨host.wanted before envelope, before.1.libraries.nextId, outcome⟩] after
  | trans {before middle after : Moment} {early late : List Enrolment}
      (first : Enrols host others before early middle)
      (rest : Enrols host others middle late after) :
      Enrols host others before (early ++ late) after

/-! ## Whatever a context does -/

/-- A step without a registration leaves the libraries as they are. -/
theorem Context.Step.libraries_of_none {before after : Context} {events : List Context.Event}
    (step : before.Step events after) (none : ∀ event ∈ events, event.registered? = none) :
    after.libraries = before.libraries := by
  have added := step.evolves.libraries
  rw [List.filterMap_eq_nil_iff.mpr none, List.append_nil] at added
  exact congrArg Registry.mk added

/-- What is composed without registering anything enrols what it enters does. -/
theorem Composed.enrols {activity : Reentry → Activity α}
    (composed : Composed host ofGuest (fun event => event.registered? = none) activity)
    (calls : ∀ designator args before outcome after,
      (again.call designator args).EndsAmid others before outcome after →
      ∃ attempts, Enrols host others before attempts after)
    (routes : ∀ envelope before outcome after,
      (again.route envelope).EndsAmid others before outcome after →
      ∃ attempts, Enrols host others before attempts after) :
    ∀ before answer after, (activity again).EndsAmid others before answer after →
      ∃ attempts, Enrols host others before attempts after := by
  induction composed with
  | own steps =>
      intro before answer after ends
      obtain ⟨value, last, events, done, -, step, none⟩ := steps before
      obtain ⟨-, rfl⟩ := (endsAmid_of_done done).mp ends
      exact ⟨[], .aside (step.libraries_of_none none)⟩
  | wait _ ready =>
      intro before answer after ends
      exact ⟨[], .aside (by rw [(unchanged_of_waitUntil ends).1])⟩
  | call designator args => exact calls designator args
  | route envelope => exact routes envelope
  | deliver _ envelope =>
      intro before answer after ends
      obtain ⟨outcome, middle, routed, -, rfl⟩ := Reentry.endsAmid_deliver_iff.mp ends
      obtain ⟨attempts, enrols⟩ := routes envelope before outcome middle routed
      have closed : Enrols host others middle [] (middle.closing ⟨envelope, outcome⟩) :=
        .aside (by rw [Moment.closing_id])
      exact ⟨_, enrols.trans closed⟩
  | bind _ _ first_ih rest_ih =>
      intro before answer after ends
      obtain ⟨value, middle, first, rest⟩ := endsAmid_bind_iff.mp ends
      obtain ⟨early, begun⟩ := first_ih _ _ _ first
      obtain ⟨late, ended⟩ := rest_ih value _ _ _ rest
      exact ⟨early ++ late, begun.trans ended⟩

/-- At every depth, libraries are registered by the host and by messages only, in each call and
in each message that comes to an end. -/
theorem Host.enrols_of_reentry (host : Host) (others : Shared → Shared → Prop) (depth : Nat) :
    (∀ designator args before outcome after,
      ((host.reentry depth).call designator args).EndsAmid others before outcome after →
      ∃ attempts, Enrols host others before attempts after) ∧
    ∀ envelope before outcome after,
      ((host.reentry depth).route envelope).EndsAmid others before outcome after →
      ∃ attempts, Enrols host others before attempts after := by
  refine host.reentry_keeps others depth (fun before after => ∃ attempts,
    Enrols host others before attempts after) (fun _ => ⟨[], .aside rfl⟩) ?_
  intro again calls routes
  constructor
  · intro designator args
    have code : Composed host True (fun event => event.registered? = none) fun again =>
        (Guest.call host.module again args designator).run := .of_guestCall _ _ _
    exact code.enrols calls routes
  · intro envelope before outcome after ends
    by_cases asks : envelope.Commands .newLibrary
    · exact ⟨_, .message asks ends⟩
    · have served : Composed host True (fun event => event.registered? = none) fun again =>
          (host.route again envelope).run :=
        (Confined.of_route_within envelope (fun _ => rfl) fun also => absurd also asks).composed
      exact served.enrols calls routes _ _ _ ends

/-- So are they while a main context runs to the end of its guest. -/
theorem Host.enrols_of_runMain {result : Except Fault Unit}
    (ends : (host.runMain host.entry).run.EndsAmid others before result after) :
    ∃ attempts, Enrols host others before attempts after := by
  obtain ⟨calls, routes⟩ := host.enrols_of_reentry others greatestDepth
  have composed : Composed host True (fun event => event.registered? = none) fun again =>
      (host.runMain again).run := Composed.of_startMain.run_bind fun _ => .of_callMain
  exact composed.enrols calls routes _ _ _ ends

/-! ## Permanence -/

/-- What tries to register a library make of a registry.  The libraries that got a number are
added in order, and their numbers go on from those that are there. -/
structure Numbered (before : Registry) (attempts : List Enrolment) (after : Registry) : Prop where
  entries : after.entries = before.entries ++ (granted attempts).map Prod.snd
  numbers : ∀ place number library, (granted attempts)[place]? = some (number, library) →
    number = UInt32.ofNat (before.entries.length + place + 2)
  outcomes : ∀ attempt ∈ attempts, attempt.outcome = attempt.wanted.map fun _ => attempt.next

theorem granted_append (early late : List Enrolment) :
    granted (early ++ late) = granted early ++ granted late :=
  List.filterMap_append

namespace Numbered

variable {first second third : Registry} {early late : List Enrolment}

theorem nil (registry : Registry) : Numbered registry [] registry :=
  ⟨(List.append_nil _).symm, nofun, fun _ member => absurd member List.not_mem_nil⟩

/-- A try adds the library that is wanted under the next number, or nothing. -/
theorem single {wanted : Except Fault Library}
    (adds : match wanted with
      | .ok library => second.entries = first.entries ++ [library]
      | .error _ => second = first) :
    Numbered first [⟨wanted, first.nextId, wanted.map fun _ => first.nextId⟩] second := by
  have outcomes : ∀ attempt ∈
      [Enrolment.mk wanted first.nextId (wanted.map fun _ => first.nextId)],
      attempt.outcome = attempt.wanted.map fun _ => attempt.next := by
    intro attempt only
    rw [List.mem_singleton.mp only]
  cases wanted with
  | error fault =>
      obtain rfl : second = first := adds
      exact ⟨(List.append_nil _).symm, nofun, outcomes⟩
  | ok library =>
      refine ⟨adds, fun place number other found => ?_, outcomes⟩
      cases place with
      | zero =>
          cases found
          exact first.nextId_eq
      | succ place => cases found

theorem trans (begun : Numbered first early second) (ended : Numbered second late third) :
    Numbered first (early ++ late) third := by
  refine ⟨?_, fun place number library found => ?_, fun attempt member => ?_⟩
  · rw [granted_append, List.map_append, ← List.append_assoc, ← begun.entries, ended.entries]
  · rw [granted_append] at found
    by_cases within : place < (granted early).length
    · rw [List.getElem?_append_left within] at found
      exact begun.numbers place number library found
    · rw [List.getElem?_append_right (Nat.not_lt.mp within)] at found
      have later := ended.numbers _ number library found
      rw [begun.entries, List.length_append, List.length_map] at later
      rw [later]
      congr 1
      omega
  · rcases List.mem_append.mp member with member | member
    · exact begun.outcomes attempt member
    · exact ended.outcomes attempt member

end Numbered

/-- Whatever a context does, its libraries are numbered so. -/
theorem Enrols.numbered {attempts : List Enrolment}
    (enrols : Enrols host others before attempts after) :
    Numbered before.1.libraries attempts after.1.libraries := by
  induction enrols with
  | aside same => exact same ▸ .nil _
  | @direct before after library number ends =>
      obtain ⟨rfl, rfl⟩ := (Activity.register_atOnce before library).endsAmid_iff.mp ends
      change Numbered _ [⟨.ok library, _, (Except.ok library).map fun _ => _⟩] _
      exact .single rfl
  | @message again envelope before after outcome asks ends =>
      obtain ⟨_, _, done, rfl, adds, stays⟩ := Host.settles_route_newLibrary asks
      obtain ⟨rfl, rfl⟩ := done.endsAmid_iff.mp ends
      refine .single ?_
      cases found : host.wanted before envelope with
      | error fault => exact congrArg (fun moment => moment.1.libraries) (stays fault found)
      | ok library =>
          obtain ⟨log, rfl⟩ := adds library found
          rfl
  | trans _ _ first rest => exact first.trans rest

/-- What is known of the libraries of a context that began anew, at a moment after so many tries to
register one. -/
structure PermanentNumbers (host : Host) (others : Shared → Shared → Prop)
    (offers : List (String × Library)) (attempts : List Enrolment) (moment : Moment) : Prop where
  /-- Each try succeeded if there was a library to register, and then its answer was the number
  that was next just before. -/
  outcomes : ∀ attempt ∈ attempts, attempt.outcome = attempt.wanted.map fun _ => attempt.next
  /-- The numbers that were given away are 2, 3, and so on. -/
  numbers : ∀ place number library, (granted attempts)[place]? = some (number, library) →
    number = UInt32.ofNat (place + 2)
  next : moment.1.libraries.nextId = UInt32.ofNat ((granted attempts).length + 2)
  /-- Every library that got a number is listed once, in the order of the numbers. -/
  listed : moment.1.libraries.listing =
    (granted attempts).map fun (number, library) => (number, library.name)
  /-- A number stands for its library ever after, as long as there are words for numbers. -/
  resolves : ∀ place number library, (granted attempts)[place]? = some (number, library) →
    place + 2 < UInt32.size → ∀ more later, Enrols host others moment more later →
    later.1.libraries.resolve number = .ok library
  /-- Numbers that were not given away stand for nothing. -/
  unknown : ∀ number : UInt32,
    number.toNat < 2 ∨ (granted attempts).length + 2 ≤ number.toNat →
    moment.1.libraries.resolve number = .error (.unknownLibrary number)
  beyond : (granted attempts).length + 2 < UInt32.size → ∀ number : UInt32,
    moment.1.libraries.nextId ≤ number →
    moment.1.libraries.resolve number = .error (.unknownLibrary number)
  /-- The host may register any library. -/
  direct : ∀ library, ∃ later,
    (Activity.register library).EndsAtOnce moment moment.1.libraries.nextId later ∧
      moment.Registers library later
  /-- A message registers the library that it asks for, or changes nothing. -/
  message : ∀ again envelope, envelope.Commands .newLibrary → ∃ outcome later,
    (host.route again envelope).run.EndsAtOnce moment outcome later ∧
      outcome = (host.wanted moment envelope).map (fun _ => moment.1.libraries.nextId) ∧
      (∀ library, host.wanted moment envelope = .ok library → moment.Registers library later) ∧
      ∀ fault, host.wanted moment envelope = .error fault → later = moment
  /-- The library that a name asks for is the one that was offered last under it. -/
  wanted : ∀ envelope name, moment.textOf envelope = .ok name →
    host.wanted moment envelope =
      match Catalog.lastOffer? offers name with
      | some library => .ok library
      | none => .error (.unknownLibraryName name)
  /-- Whatever messages and calls there are next, it goes on like this. -/
  goesOn : ∀ depth,
    (∀ designator args outcome later,
      ((host.reentry depth).call designator args).EndsAmid others moment outcome later →
      ∃ more, Enrols host others moment more later) ∧
    ∀ envelope outcome later,
      ((host.reentry depth).route envelope).EndsAmid others moment outcome later →
      ∃ more, Enrols host others moment more later
  runs : ∀ result later, (host.runMain host.entry).run.EndsAmid others moment result later →
    ∃ more, Enrols host others moment more later

/--
In a context that began anew, the libraries that are registered get the numbers from 2 on in
order, whether the host registers them or messages of the guest ask for them, and whatever
happens in between.  A number stands for its library ever after, and every other number for
none.  A name asks for the library that was offered last under it.
-/
theorem library_numbers_permanent (host : Host) {offers : List (String × Library)}
    (offered : host.catalog = Catalog.offering offers) {id : UInt32} {shared : Shared}
    {attempts : List Enrolment}
    (enrols : Enrols host others (Context.new host id, shared) attempts after) :
    PermanentNumbers host others offers attempts after := by
  have numbered := enrols.numbered
  have entries : after.1.libraries.entries = (granted attempts).map Prod.snd := numbered.entries
  have count : after.1.libraries.entries.length = (granted attempts).length := by
    rw [entries, List.length_map]
  have numbers (place : Nat) (number : UInt32) (library : Library)
      (found : (granted attempts)[place]? = some (number, library)) :
      number = UInt32.ofNat (place + 2) := by
    have there := numbered.numbers place number library found
    rwa [show (Context.new host id).libraries.entries.length = 0 from rfl, Nat.zero_add] at there
  have unknown (number : UInt32)
      (outside : number.toNat < 2 ∨ (granted attempts).length + 2 ≤ number.toNat) :
      after.1.libraries.resolve number = .error (.unknownLibrary number) :=
    Registry.resolve_of_outside (count ▸ outside)
  refine
    { outcomes := numbered.outcomes
      numbers
      unknown
      next := by rw [Registry.nextId_eq, count]
      listed := List.ext_getElem? fun place => ?_
      resolves := fun place number library found fits more later continues => ?_
      beyond := fun fits number reached => unknown number (.inr ?_)
      direct := fun library => ⟨_, Activity.register_atOnce after library, _, rfl⟩
      message := fun again envelope asks => ?_
      wanted := fun envelope name read => ?_
      goesOn := fun depth => ?_
      runs := fun _ _ => Host.enrols_of_runMain }
  · rw [Registry.getElem?_listing, entries, List.getElem?_map, List.getElem?_map]
    cases found : (granted attempts)[place]? with
    | none => rfl
    | some pair =>
        obtain ⟨number, library⟩ := pair
        rw [numbers place number library found]
        rfl
  · have here : after.1.libraries.entries[place]? = some library := by
      rw [entries, List.getElem?_map, found]
      rfl
    have there : later.1.libraries.entries[place]? = some library := by
      rw [continues.numbered.entries]
      exact List.getElem?_append_left (List.getElem?_eq_some_iff.mp here).1 ▸ here
    refine Registry.resolve_of_place there ?_
    rw [numbers place number library found]
    exact UInt32.toNat_ofNat_of_lt' fits
  · rw [Registry.nextId_eq, count] at reached
    have least := UInt32.le_iff_toNat_le.mp reached
    rwa [UInt32.toNat_ofNat_of_lt' fits] at least
  · exact Host.settles_route_newLibrary asks
  · rw [Host.wanted, read, ← Catalog.find_offering, ← offered]
    rfl
  · obtain ⟨calls, routes⟩ := host.enrols_of_reentry others depth
    exact ⟨fun designator args => calls designator args after,
      fun envelope => routes envelope after⟩

/-- A host that offers one library and then another under the same name. -/
def Host.reoffering : Host :=
  { Host.bare with
    catalog := Catalog.offering [("tool", Objects.library), ("tool", handingOver)] }

/-- A context with that name at the start of its memory. -/
def Moment.requesting : Moment :=
  .owning .reoffering (.page 1 (Text.Utf8.encode "tool")) false

/-- The name gets the later library as number 2, for good. -/
theorem library_numbers_permanent_reoffered :
    ∃ after,
      (Host.reoffering.route Host.trapping ⟨1, 0, 0, 4⟩).run.EndsAtOnce Moment.requesting (.ok 2)
        after ∧
      ∀ more later, Enrols Host.reoffering (fun _ _ => True) after more later →
        later.1.libraries.resolve 2 = .ok handingOver := by
  have carried : Moment.requesting.payloadOf ⟨1, 0, 0, 4⟩ = .ok (Text.Utf8.encode "tool") :=
    Moment.payloadOf_of_page rfl rfl rfl rfl (by decide)
  have read : Moment.requesting.textOf ⟨1, 0, 0, 4⟩ = .ok "tool" := by
    rw [Moment.textOf, carried]
    exact decodeText_eq_ok_iff.mpr rfl
  have asks : Wire.Envelope.Commands ⟨1, 0, 0, 4⟩ .newLibrary := ⟨rfl, rfl⟩
  have begins : Enrols Host.reoffering (fun _ _ => True)
      (Context.new Host.reoffering mainContext, {}) [] Moment.requesting := .aside rfl
  have known := library_numbers_permanent Host.reoffering rfl begins
  have wanted : Host.reoffering.wanted Moment.requesting ⟨1, 0, 0, 4⟩ = .ok handingOver :=
    known.wanted _ _ read
  obtain ⟨outcome, after, ends, came, -⟩ := known.message Host.trapping _ asks
  rw [wanted] at came
  obtain rfl : outcome = .ok 2 := came
  have later := library_numbers_permanent Host.reoffering rfl
    (begins.trans (.message asks ends.endsAmid))
  refine ⟨after, ends, later.resolves 0 2 handingOver ?_ (by decide)⟩
  rw [wanted]
  rfl

end WasmBridge
