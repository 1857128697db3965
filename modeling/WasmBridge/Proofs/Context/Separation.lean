import WasmBridge.Proofs.Context.Delivery
import WasmBridge.Proofs.Context.Evolution
import WasmBridge.Proofs.Lists

/-!
# Contexts that do not interfere

Contexts of a host share its heap, its catalog, its memory and its workers.  Their handles
and the numbers of their libraries they do not share: what a context registers, stores and
releases is answered as if no other context were there.
-/

namespace WasmBridge

open Activity

variable {host : Host} {again : Reentry} {before : Moment}

/-! ## Letters -/

/-- What a context has to itself and messages change. -/
structure Belongings where
  objects : HandleTable HostValue
  libraries : Registry

/-- The belongings of a context. -/
def Context.belongings (context : Context) : Belongings :=
  ⟨context.objects, context.libraries⟩

/-- The context with other belongings. -/
def Context.owning (context : Context) (belongings : Belongings) : Context :=
  { context with objects := belongings.objects, libraries := belongings.libraries }

/-- The belongings of a new context. -/
def Belongings.fresh (host : Host) : Belongings :=
  ⟨HandleTable.new .null (.object host.globalObject), {}⟩

/-- What the objects library is asked to keep or to give up. -/
inductive Keeping where
  | newString
  | newBytes
  | release
deriving DecidableEq

namespace Keeping

/-- The command of the objects library. -/
def command : Keeping → Wire.ObjectCommand
  | newString => .newString
  | newBytes => .newBytes
  | release => .release

/-- What becomes of a table of handles, and the answer. -/
def outcome (keeping : Keeping) (payload : Bytes) (objects : HandleTable HostValue) :
    Except Fault (UInt32 × HandleTable HostValue) :=
  match keeping with
  | newString => do objects.insert (.string (← decodeText payload 0))
  | newBytes => objects.insert (.bytes payload)
  | release => do return (0, (objects.release (← Wire.decodeOne payload "release")).2)

/-- The objects library does to the table of the context what it is asked for, and nothing
else. -/
theorem carriesOut (keeping : Keeping) (payload : Bytes) :
    host.CarriesOut again (Objects.serveCommand keeping.command payload) before
      fun result after =>
        match keeping.outcome payload before.1.objects with
        | .ok (answer, objects) =>
            result = .ok answer ∧ after = ({ before.1 with objects }, before.2)
        | .error fault => result = .error (.fault fault) ∧ after = before := by
  cases keeping with
  | newString =>
      refine .ofExcept_bind (fun text read => ?_) fun fault unread => ?_
      · refine .of_insert (fun handle objects inserted => ?_) fun fault refused => ?_
        · simp [outcome, read, bind, Except.bind, inserted]
        · simp [outcome, read, bind, Except.bind, refused]
      · simp [outcome, unread, bind, Except.bind]
  | newBytes =>
      refine .of_insert (fun handle objects inserted => ?_) fun fault refused => ?_
      · simp [outcome, inserted]
      · simp [outcome, refused]
  | release =>
      refine .ofExcept_bind (fun handle read => ?_) fun fault unread => ?_
      · have responds : (host.respond again (.release handle)).EndsAtOnce before
            (before.1.objects.release handle).1
            ({ before.1 with objects := (before.1.objects.release handle).2 }, before.2) := rfl
        refine .of_request responds (.of_answer ?_)
        simp [outcome, read, bind, Except.bind, pure, Except.pure]
      · simp [outcome, unread, bind, Except.bind]

end Keeping

/-- What a letter is about. -/
inductive Errand where
  /-- A library of the catalog, for the control library to register. -/
  | register
  /-- Something for the objects library, under its number in the context. -/
  | keep (library : UInt32) (keeping : Keeping)
deriving DecidableEq

/-- A message with the bytes of its payload, and where they are in the memory. -/
structure Letter where
  errand : Errand
  pointer : UInt32
  payload : Bytes

namespace Letter

variable {letter : Letter}

/-- The envelope of a letter. -/
def envelope (letter : Letter) : Wire.Envelope :=
  let length := UInt32.ofNat letter.payload.length
  match letter.errand with
  | .register =>
    ⟨Wire.controlLibrary, Wire.ControlCommand.newLibrary.toWord, letter.pointer, length⟩
  | .keep library keeping => ⟨library, keeping.command.toWord, letter.pointer, length⟩

/-- A letter is sent from a moment: the memory holds its payload, and a library other than
the control library is the objects library if it is registered at all. -/
structure SentFrom (letter : Letter) (moment : Moment) : Prop where
  carried : moment.payloadOf letter.envelope = .ok letter.payload
  addressed : ∀ library keeping, letter.errand = .keep library keeping →
    library ≠ Wire.controlLibrary ∧
      ∀ found, moment.1.libraries.resolve library = .ok found → found = Objects.library

/-- What becomes of the belongings of its sender, and the answer. -/
def outcome (host : Host) (belongings : Belongings) (letter : Letter) :
    Except Fault (UInt32 × Belongings) :=
  match letter.errand with
  | .register => do
    let name ← decodeText letter.payload letter.pointer
    let library ← host.catalog.find name
    let (id, libraries) := belongings.libraries.register library
    return (id, { belongings with libraries })
  | .keep library keeping => do
    let _ ← belongings.libraries.resolve library
    let (answer, objects) ← keeping.outcome letter.payload belongings.objects
    return (answer, { belongings with objects })

/-- The answer and the belongings of the sender afterwards: a letter that fails is answered
with 0 and changes nothing. -/
def effect (host : Host) (belongings : Belongings) (letter : Letter) : UInt32 × Belongings :=
  (letter.outcome host belongings).toOption.getD (0, belongings)

/-- The answers to letters, one after the other, and the belongings after the last. -/
def effects (host : Host) (belongings : Belongings) : List Letter → List UInt32 × Belongings
  | [] => ([], belongings)
  | letter :: rest =>
    let (answer, next) := letter.effect host belongings
    let (answers, last) := effects host next rest
    (answer :: answers, last)

theorem effects_concat (belongings : Belongings) (letters : List Letter) (last : Letter) :
    effects host belongings (letters ++ [last]) =
      ((effects host belongings letters).1 ++
          [(last.effect host (effects host belongings letters).2).1],
        (last.effect host (effects host belongings letters).2).2) := by
  induction letters generalizing belongings with
  | nil => rfl
  | cons letter rest ih => simp only [List.cons_append, effects, ih]

/-! ## One letter -/

/-- A letter is settled by its outcome. -/
def SettledBy (outcome : Except Fault (UInt32 × Belongings)) (before : Moment)
    (result : Except Fault UInt32) (after : Moment) : Prop :=
  match outcome with
  | .ok (answer, belongings) => result = .ok answer ∧ after.1 = before.1.owning belongings
  | .error _ => (∃ fault, result = .error fault) ∧ after.1 = before.1

/-- A letter for the control library registers the library it names. -/
theorem settles_register {pointer : UInt32} {payload : Bytes}
    (carried : before.payloadOf (envelope ⟨.register, pointer, payload⟩) = .ok payload) :
    Settles (host.route again (envelope ⟨.register, pointer, payload⟩)) before
      (SettledBy (outcome host before.1.belongings ⟨.register, pointer, payload⟩) before) := by
  refine Host.settles_route_of_isControl rfl (fun command named => ?_) fun fault unnamed => ?_
  · rw [← Except.ok.inj ((Wire.ControlCommand.ofWord_toWord .newLibrary).symm.trans named)]
    have copied : (Host.payload (envelope ⟨.register, pointer, payload⟩)).run.EndsAtOnce before
        (.ok payload) before := carried ▸ Host.payload_done
    have read : (Host.payloadText (envelope ⟨.register, pointer, payload⟩)).run.EndsAtOnce before
        (decodeText payload pointer) before := .run_bind copied (.of_except _)
    refine .bind_of_inspection read (fun name decoded => ?_) fun fault unread => ?_
    · refine .bind_of_inspection (.of_except _) (fun library found => ?_) fun fault missing => ?_
      · refine ⟨.ok before.1.libraries.nextId,
          ({ before.1 with libraries := (before.1.libraries.register library).2 },
            { before.2 with
              log := before.2.log.push (before.1.id,
                .libraryRegistered before.1.id name before.1.libraries.nextId) }), rfl, ?_⟩
        simp only [outcome, decoded, found, bind, Except.bind, pure, Except.pure]
        exact ⟨rfl, rfl⟩
      · simp [SettledBy, outcome, decoded, missing, bind, Except.bind]
    · simp [SettledBy, outcome, unread, bind, Except.bind]
  · cases (Wire.ControlCommand.ofWord_toWord .newLibrary).symm.trans unnamed

/-- A letter for the objects library is refused where that is not registered. -/
theorem settles_keep {library : UInt32} {keeping : Keeping} {pointer : UInt32} {payload : Bytes}
    (sent : SentFrom ⟨.keep library keeping, pointer, payload⟩ before) :
    Settles (host.route again (envelope ⟨.keep library keeping, pointer, payload⟩)) before
      (SettledBy (outcome host before.1.belongings ⟨.keep library keeping, pointer, payload⟩)
        before) := by
  obtain ⟨other, offered⟩ := sent.addressed library keeping rfl
  cases resolved : before.1.libraries.resolve library with
  | error fault =>
      refine Host.settles_route_of_not_reaches (by simpa [envelope, Wire.Envelope.isControl]) ?_ ?_
      · intro found bytes reaches
        cases resolved.symm.trans reaches.resolved
      · intro fault
        simp [SettledBy, outcome, Context.belongings, resolved, bind, Except.bind]
  | ok found =>
      cases offered found resolved
      have reaches : before.Reaches (envelope ⟨.keep library keeping, pointer, payload⟩)
          Objects.library payload := Moment.reaches_iff.mpr ⟨resolved, sent.carried⟩
      refine Host.settles_route_of_reaches reaches ?_
      rw [show (envelope ⟨.keep library keeping, pointer, payload⟩).command =
        keeping.command.toWord from rfl, Objects.serve_toWord]
      refine (keeping.carriesOut payload).mono fun result after known => ?_
      simp only [SettledBy, outcome, Context.belongings, resolved, bind, Except.bind]
      split at known <;> rename_i same
      · obtain ⟨rfl, rfl⟩ := known
        simp [same, Except.mapError, pure, Except.pure, Context.owning]
      · obtain ⟨rfl, rfl⟩ := known
        simp [same, Except.mapError]

theorem SettledBy.effect {result : Except Fault UInt32} {after : Moment}
    (settled : SettledBy (letter.outcome host before.1.belongings) before result after) :
    Receipt.answer ⟨letter.envelope, result⟩ = (letter.effect host before.1.belongings).1 ∧
      after.1 = before.1.owning (letter.effect host before.1.belongings).2 := by
  unfold Letter.effect
  unfold SettledBy at settled
  cases result_of : letter.outcome host before.1.belongings with
  | ok owned =>
      rw [result_of] at settled
      obtain ⟨rfl, owns⟩ := settled
      exact ⟨rfl, owns⟩
  | error fault =>
      rw [result_of] at settled
      obtain ⟨⟨fault, rfl⟩, kept⟩ := settled
      exact ⟨rfl, kept⟩

/-- A letter is answered at once, and has its effect on what its sender has to itself.  What
else the sender has stays as it is. -/
theorem deliver (host : Host) (again : Reentry) (sent : letter.SentFrom before) :
    ∃ later, ((host.serving again).deliver letter.envelope).EndsAtOnce before
      (letter.effect host before.1.belongings).1
      (before.1.owning (letter.effect host before.1.belongings).2, later) := by
  have settles : Settles (host.route again letter.envelope) before
      (SettledBy (letter.outcome host before.1.belongings) before) := by
    obtain ⟨errand, pointer, payload⟩ := letter
    cases errand with
    | register => exact settles_register sent.carried
    | keep library keeping => exact settles_keep sent
  obtain ⟨result, after, routed, settled⟩ := settles
  obtain ⟨answered, owned⟩ := settled.effect
  have served : ((host.serving again).route letter.envelope).EndsAtOnce before result after :=
    routed
  rw [← answered, ← owned, ← after.closing_id ⟨letter.envelope, result⟩]
  exact ⟨_, Reentry.deliver_atOnce served⟩

/-- Where a letter may be sent from depends on the memory and on the sender alone. -/
theorem SentFrom.of_memory {shared : Shared} (sent : letter.SentFrom before)
    (memory : shared.memory = before.2.memory) : letter.SentFrom (before.1, shared) := by
  have same : Moment.memory? (before.1, shared) = before.memory? := by
    unfold Moment.memory?
    rw [memory]
  refine ⟨?_, sent.addressed⟩
  rw [← sent.carried]
  unfold Moment.payloadOf
  rw [same]

end Letter

/-! ## Crowds -/

/-- Nothing changes but what is in the memory. -/
def Shared.Rewritten (shared later : Shared) : Prop :=
  ∃ memory, later = { shared with memory }

/-- The contexts of a host, in the order in which they were entered, and what they share. -/
structure Crowd where
  contexts : List Context
  shared : Shared

/-- A letter of a context, by the place of the context in its crowd, and the answer. -/
structure Posted where
  place : Nat
  letter : Letter
  answer : UInt32

namespace Crowd

/--
A crowd grows and sends letters, in any order.  In between, a context may change otherwise
than in what its handles and its libraries are, and the shared state may change with the
weather.
-/
inductive Goes (host : Host) (weather : Shared → Shared → Prop) (shared : Shared) :
    List Posted → Crowd → Prop where
  | start : Goes host weather shared [] ⟨[], shared⟩
  | enter {record : List Posted} {crowd : Crowd} (goes : Goes host weather shared record crowd)
      (id : UInt32) :
      Goes host weather shared record ⟨crowd.contexts ++ [Context.new host id], crowd.shared⟩
  | aside {record : List Posted} {crowd : Crowd} {place : Nat} {context later : Context}
      (goes : Goes host weather shared record crowd)
      (there : crowd.contexts[place]? = some context) (aside : context.Aside later) :
      Goes host weather shared record ⟨crowd.contexts.set place later, crowd.shared⟩
  | weather {record : List Posted} {crowd : Crowd} {later : Shared}
      (goes : Goes host weather shared record crowd) (changed : weather crowd.shared later) :
      Goes host weather shared record ⟨crowd.contexts, later⟩
  | letter {record : List Posted} {crowd : Crowd} {place : Nat} {context : Context}
      {letter : Letter} {again : Reentry} {others : Shared → Shared → Prop} {answer : UInt32}
      {after : Moment} (goes : Goes host weather shared record crowd)
      (there : crowd.contexts[place]? = some context)
      (sent : letter.SentFrom (context, crowd.shared))
      (delivered : ((host.serving again).deliver letter.envelope).EndsAmid others
        (context, crowd.shared) answer after) :
      Goes host weather shared (record ++ [⟨place, letter, answer⟩])
        ⟨crowd.contexts.set place after.1, after.2⟩

end Crowd

/-- What the context at a place sent and was answered. -/
def ownPost (place : Nat) (record : List Posted) : List Posted :=
  record.filter fun posted => posted.place == place

/-- The post as that of the only context of a crowd. -/
def alone (record : List Posted) : List Posted :=
  record.map fun posted => { posted with place := 0 }

variable {weather : Shared → Shared → Prop} {shared : Shared} {record : List Posted}
  {crowd : Crowd} {place : Nat} {context : Context}

theorem ownPost_concat_self (letter : Letter) (answer : UInt32) :
    ownPost place (record ++ [⟨place, letter, answer⟩]) =
      ownPost place record ++ [⟨place, letter, answer⟩] := by
  simp [ownPost]

theorem ownPost_concat_of_ne {other : Nat} (apart : place ≠ other) (letter : Letter)
    (answer : UInt32) :
    ownPost place (record ++ [⟨other, letter, answer⟩]) = ownPost place record := by
  simp [ownPost, Ne.symm apart]

/-! ## Runs -/

namespace Crowd.Goes

/-- Nobody sends letters before it is entered. -/
theorem place_lt (goes : Goes host weather shared record crowd) {posted : Posted}
    (among : posted ∈ record) : posted.place < crowd.contexts.length := by
  induction goes with
  | start => cases among
  | enter goes id ih =>
      rw [List.length_append]
      exact Nat.lt_add_right _ (ih among)
  | aside goes there aside ih =>
      rw [List.length_set]
      exact ih among
  | weather goes changed ih => exact ih among
  | letter goes there sent delivered ih =>
      rw [List.length_set]
      rcases List.mem_append.mp among with old | new
      · exact ih old
      · rw [List.mem_singleton.mp new]
        exact (List.getElem?_eq_some_iff.mp there).1

theorem ownPost_length (goes : Goes host weather shared record crowd) :
    ownPost crowd.contexts.length record = [] := by
  refine List.filter_eq_nil_iff.mpr fun posted among same => ?_
  exact Nat.ne_of_lt (goes.place_lt among) (eq_of_beq same)

/-- All letters of a crowd of one are those of its one context. -/
theorem ownPost_zero {left : Shared} (goes : Goes host weather shared record ⟨[context], left⟩) :
    ownPost 0 record = record := by
  refine List.filter_eq_self.mpr fun posted among => ?_
  exact beq_iff_eq.mpr (Nat.lt_one_iff.mp (goes.place_lt among))

/-- A letter that can be sent is answered. -/
theorem send {letter : Letter} (again : Reentry) (place : Nat)
    (goes : Goes host weather shared record crowd)
    (there : crowd.contexts[place]? = some context)
    (sent : letter.SentFrom (context, crowd.shared)) :
    ∃ later, Goes host weather shared
      (record ++ [⟨place, letter, (letter.effect host context.belongings).1⟩])
      ⟨crowd.contexts.set place (context.owning (letter.effect host context.belongings).2),
        later⟩ := by
  obtain ⟨later, atOnce⟩ := Letter.deliver host again sent
  have delivered : ((host.serving again).deliver letter.envelope).EndsAmid Eq
      (context, crowd.shared) _ _ := atOnce.endsAmid
  exact ⟨later, .letter goes there sent delivered⟩

/-- The letters of a context have their effects one after the other, from what a new context
has on, whatever was sent in between. -/
theorem effects (goes : Goes host weather shared record crowd)
    (there : crowd.contexts[place]? = some context) :
    Letter.effects host (.fresh host) ((ownPost place record).map Posted.letter) =
      ((ownPost place record).map Posted.answer, context.belongings) := by
  induction goes generalizing context with
  | start => cases there
  | @enter record crowd goes id ih =>
      rcases getElem?_append_cases there with ⟨rfl, rfl⟩ | old
      · rw [goes.ownPost_length]
        rfl
      · exact ih old
  | @aside record crowd other former later goes known aside ih =>
      rcases getElem?_set_cases there with ⟨rfl, rfl⟩ | ⟨apart, old⟩
      · rw [ih known]
        simp only [Context.belongings, aside.objects, aside.libraries]
      · exact ih old
  | weather goes changed ih => exact ih there
  | @letter record crowd other sender letter again others answer after goes known sent delivered
      ih =>
      obtain ⟨left, atOnce⟩ := Letter.deliver host again sent
      obtain ⟨rfl, rfl⟩ := atOnce.endsAmid_iff.mp delivered
      rcases getElem?_set_cases there with ⟨rfl, rfl⟩ | ⟨apart, old⟩
      · rw [ownPost_concat_self, List.map_append, List.map_append]
        simp only [List.map_cons, List.map_nil, Letter.effects_concat, ih known]
        rfl
      · rw [ownPost_concat_of_ne apart]
        exact ih old

/-- A context alone in its crowd, whose memory changes as it did among others, goes the same
way. -/
theorem alone (goes : Goes host weather shared record crowd)
    (there : crowd.contexts[place]? = some context) (other : Shared) :
    ∃ left, Goes host Shared.Rewritten other (WasmBridge.alone (ownPost place record))
      ⟨[context], left⟩ := by
  induction goes generalizing context with
  | start => cases there
  | @enter record crowd goes id ih =>
      rcases getElem?_append_cases there with ⟨rfl, rfl⟩ | old
      · rw [goes.ownPost_length]
        exact ⟨other, .enter .start id⟩
      · exact ih old
  | @aside record crowd moved former later goes known aside ih =>
      rcases getElem?_set_cases there with ⟨rfl, rfl⟩ | ⟨apart, old⟩
      · obtain ⟨left, went⟩ := ih known
        have first : [former][0]? = some former := rfl
        exact ⟨left, .aside went first aside⟩
      · exact ih old
  | weather goes changed ih => exact ih there
  | @letter record crowd origin sender letter again others answer after goes known sent
      delivered ih =>
      obtain ⟨next, atOnce⟩ := Letter.deliver host again sent
      obtain ⟨rfl, rfl⟩ := atOnce.endsAmid_iff.mp delivered
      rcases getElem?_set_cases there with ⟨rfl, rfl⟩ | ⟨apart, old⟩
      · obtain ⟨left, went⟩ := ih known
        have rewritten : Goes host Shared.Rewritten other _
            ⟨[sender], { left with memory := crowd.shared.memory }⟩ := went.weather ⟨_, rfl⟩
        have resent : letter.SentFrom (sender, { left with memory := crowd.shared.memory }) :=
          sent.of_memory rfl
        rw [ownPost_concat_self, WasmBridge.alone, List.map_append]
        exact rewritten.send again 0 rfl resent
      · rw [ownPost_concat_of_ne apart]
        exact ih old

end Crowd.Goes

/--
Whatever else goes on in a crowd, a context goes its own way there: alone in a crowd, on any
shared state, it can send the same letters, get the same answers and become the same; and
every context that is alone and sends these letters gets these answers, and in the end has
the same handles and libraries.
-/
theorem contexts_do_not_interfere (place : Nat)
    (goes : Crowd.Goes host weather shared record crowd)
    (there : crowd.contexts[place]? = some context) :
    (∀ other, ∃ left, Crowd.Goes host Shared.Rewritten other (alone (ownPost place record))
      ⟨[context], left⟩) ∧
    ∀ {changes : Shared → Shared → Prop} {other left : Shared} {own : List Posted}
      {single : Context}, Crowd.Goes host changes other own ⟨[single], left⟩ →
      own.map Posted.letter = (ownPost place record).map Posted.letter →
      own.map Posted.answer = (ownPost place record).map Posted.answer ∧
        single.objects = context.objects ∧ single.libraries = context.libraries := by
  refine ⟨goes.alone there, @fun changes other left own single went same => ?_⟩
  have among := goes.effects there
  have only : [single][0]? = some single := rfl
  have apart := went.effects only
  rw [went.ownPost_zero, same, among] at apart
  obtain ⟨answers, belongings⟩ := Prod.mk.inj apart
  obtain ⟨objects, libraries⟩ := Belongings.mk.inj belongings
  exact ⟨answers.symm, objects.symm, libraries.symm⟩

/-- A host that offers the objects library under no name. -/
def Host.nameless : Host :=
  { Host.bare with catalog := Catalog.insertAs [] "" Objects.library }

def Letter.registering : Letter := ⟨.register, 0, []⟩

def Letter.storing : Letter := ⟨.keep 2 .newBytes, 0, []⟩

/-- A main context and a worker register the library and store no bytes. -/
def registeredAndStored : List Posted :=
  [⟨0, .registering, 2⟩, ⟨1, .registering, 2⟩, ⟨1, .storing, 2⟩, ⟨0, .storing, 2⟩]

/-- Both contexts get the first number and the first handle, as each does alone. -/
theorem contexts_do_not_interfere_registering :
    ∃ crowd worker, crowd.contexts[1]? = some worker ∧
      Crowd.Goes Host.nameless Eq {} registeredAndStored crowd ∧
      ∃ left, Crowd.Goes Host.nameless Shared.Rewritten {}
        [⟨0, .registering, 2⟩, ⟨0, .storing, 2⟩] ⟨[worker], left⟩ := by
  have decoded : decodeText [] 0 = .ok "" := decodeText_eq_ok_iff.mpr rfl
  have registers : Letter.registering.effect Host.nameless (.fresh Host.nameless) =
      (2, ⟨(Belongings.fresh Host.nameless).objects, ⟨[Objects.library]⟩⟩) := by
    unfold Letter.effect Letter.outcome
    simp only [Letter.registering, decoded]
    rfl
  have fresh (id : UInt32) : (Context.new Host.nameless id).belongings = .fresh Host.nameless :=
    rfl
  have naming (context : Context) (shared : Shared) :
      Letter.registering.SentFrom (context, shared) := ⟨rfl, nofun⟩
  have storing (id : UInt32) (shared : Shared) : Letter.storing.SentFrom
      ((Context.new Host.nameless id).owning
        ⟨(Belongings.fresh Host.nameless).objects, ⟨[Objects.library]⟩⟩, shared) := by
    refine ⟨rfl, fun library keeping same => ?_⟩
    cases same
    exact ⟨by decide, fun found resolved => (Except.ok.inj resolved).symm⟩
  have entered : Crowd.Goes Host.nameless Eq {} [] _ := .enter (.enter .start mainContext) 5
  obtain ⟨_, one⟩ := entered.send Host.trapping 0 rfl (naming _ _)
  obtain ⟨_, two⟩ := one.send Host.trapping 1 rfl (naming _ _)
  rw [fresh, fresh, registers] at two
  obtain ⟨_, three⟩ := two.send Host.trapping 1 rfl (storing 5 _)
  obtain ⟨_, four⟩ := three.send Host.trapping 0 rfl (storing mainContext _)
  exact ⟨_, _, rfl, four, (contexts_do_not_interfere 1 four rfl).1 {}⟩

end WasmBridge
