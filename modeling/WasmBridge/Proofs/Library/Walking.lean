import WasmBridge.Proofs.Library.Exactness
import WasmBridge.Proofs.Lists
import WasmBridge.Proofs.Value.Documents

/-!
# Walking through a document

A JSON value that is made in the heap and put under a name of the global object can be
walked by handles.  A guest asks the global handle for the name, the handle that answers for
the next name, and so on.  Every part of the document on its way gets a handle, and whatever
else was live stays so.
-/

namespace WasmBridge

open Activity

variable {host : Host} {again : Reentry} {before sent after : Moment} {envelope : Wire.Envelope}
  {object answer : Handle} {name : String} {names : List String} {holder value : HostValue}
  {met : Heap → Prop} {done : List Handle → Moment → Prop} {given : List Handle} {count : Nat}

/-! ## Messages for a property -/

/-- The message asks the objects library for the property of a name. -/
structure Moment.Asks (moment : Moment) (envelope : Wire.Envelope) (object : Handle)
    (name : String) : Prop where
  addressed : envelope.command = Wire.ObjectCommand.getNamed.toWord
  reaches : moment.Reaches envelope Objects.library
    (Wire.encodeWord object ++ Text.Utf8.encode name)

/-- The payload of such a message is a handle and a name. -/
theorem Objects.serveCommand_getNamed (object : Handle) (name : String) :
    Objects.serveCommand .getNamed (Wire.encodeWord object ++ Text.Utf8.encode name) =
      Objects.readProperty object name := by
  have four := Wire.length_encodeWord object
  have long : ¬ (Wire.encodeWord object ++ Text.Utf8.encode name).length < 4 := by
    rw [List.length_append]
    omega
  have front :
      (Wire.encodeWord object ++ Text.Utf8.encode name).take 4 = Wire.encodeWord object := by
    rw [← four, List.take_left]
  have back :
      (Wire.encodeWord object ++ Text.Utf8.encode name).drop 4 = Text.Utf8.encode name := by
    rw [← four, List.drop_left]
  rw [Objects.serveCommand, if_neg long, front, back, Wire.decodeOne_eq_ok_iff.mpr rfl,
    decodeText_eq_ok_iff.mpr rfl]
  rfl

/-- A handle answered a message and nothing else changed: it is a new one, and what was live
stays so. -/
structure Moment.Grants (sent : Moment) (answer : Handle) (after : Moment) : Prop where
  proper : answer ≠ Handle.null
  fresh : sent.1.objects.isLive answer = false
  keeps : ∀ handle held, sent.1.objects.get handle = .ok held →
    after.1.objects.get handle = .ok held
  aside : after = ({ sent.1 with objects := after.1.objects }, sent.2)

/-- A value that is stored gets such a handle, which stands for it. -/
theorem Moment.grants_of_insert {handle : Handle} {next : HandleTable HostValue}
    (wf : sent.1.objects.WellFormed .null (.object host.globalObject))
    (inserted : sent.1.objects.insert value = .ok (handle, next)) :
    sent.Grants handle ({ sent.1 with objects := next }, sent.2) ∧
      next.get handle = .ok value := by
  have stored := HandleTable.stored_of_insert wf inserted
  have unpinned := (wf.place?_bounds stored.place).1
  refine ⟨⟨Handle.ne_null_of_unpinned unpinned, stored.isLive wf, ?_, rfl⟩, ?_⟩
  · intro other kept live
    have different : other ≠ handle := by
      rintro rfl
      have dead := stored.isLive wf
      unfold HandleTable.isLive at dead
      rw [live] at dead
      cases dead
    exact (stored.get_eq_ok_iff wf).mpr (if_neg different ▸ live)
  · refine (stored.get_eq_ok_iff wf).mpr ?_
    rw [if_pos rfl]

/-- A property of a value is read and stored. -/
theorem Host.CarriesOut.readProperty {known : Except Failure Handle → Moment → Prop}
    (held : sent.1.objects.get object = .ok holder)
    (absent : sent.2.heap.property? name holder = none → known (.ok Handle.null) sent)
    (present : ∀ value, sent.2.heap.property? name holder = some value →
      host.CarriesOut again (Objects.store value) sent known) :
    host.CarriesOut again (Objects.readProperty object name) sent known := by
  refine .lookup_bind (fun looked found => ?_) (fun fault missing => ?_)
  · cases held.symm.trans found
    refine .property_bind ?_
    cases read : sent.2.heap.property? name holder with
    | none => exact .of_answer (absent read)
    | some value => exact present value read
  · cases held.symm.trans missing

namespace Moment.Asks

variable (asks : sent.Asks envelope object name)
include asks

/-- Such a message is answered as the property is read. -/
theorem deliver_atOnce
    (reads : host.CarriesOut again (Objects.readProperty object name) sent
      fun result last => result = .ok answer ∧ last = after) :
    ((host.serving again).deliver envelope).EndsAtOnce sent answer after := by
  have routed : Settles (host.route again envelope) sent fun outcome last =>
      outcome = .ok answer ∧ last = after := by
    refine Host.settles_route_of_reaches asks.reaches ?_
    rw [asks.addressed, Objects.serve_toWord, Objects.serveCommand_getNamed]
    refine reads.mono fun result last answered => ?_
    rw [answered.1]
    exact ⟨rfl, answered.2⟩
  obtain ⟨_, _, ends, rfl, rfl⟩ := routed
  have ends : ((host.serving again).route envelope).EndsAtOnce sent _ _ := ends
  exact Reentry.deliver_atOnce ends

variable (held : sent.1.objects.get object = .ok holder)
include held

/-- No property, and a property that is null, is answered with no handle. -/
theorem deliver_nothing (again : Reentry)
    (nothing : sent.2.heap.property? name holder = none ∨
      sent.2.heap.property? name holder = some .null) :
    ((host.serving again).deliver envelope).EndsAtOnce sent Handle.null sent := by
  refine asks.deliver_atOnce (.readProperty held (fun _ => ⟨rfl, rfl⟩) fun value found => ?_)
  rcases nothing with none | null
  · cases none.symm.trans found
  · cases null.symm.trans found
    exact .of_answer ⟨rfl, rfl⟩

/-- Any other property is answered with a new handle, as far as there is room. -/
theorem deliver_granted (again : Reentry)
    (wf : sent.1.objects.WellFormed .null (.object host.globalObject))
    (found : sent.2.heap.property? name holder = some value) (proper : value ≠ .null)
    (room : sent.1.objects.HasRoom (count + 1)) :
    ∃ answer after, ((host.serving again).deliver envelope).EndsAtOnce sent answer after ∧
      sent.Grants answer after ∧ after.1.objects.get answer = .ok value ∧
      after.1.objects.WellFormed .null (.object host.globalObject) ∧
      after.1.objects.HasRoom count := by
  obtain ⟨handle, next, inserted, left⟩ := HandleTable.insert_of_room wf room value
  obtain ⟨grants, stands⟩ := Moment.grants_of_insert wf inserted
  have stores : host.CarriesOut again (Objects.store value) sent fun result last =>
      result = .ok handle ∧ last = ({ sent.1 with objects := next }, sent.2) := by
    have notNull : value.isNull = false := by
      cases value with
      | null => exact absurd rfl proper
      | _ => rfl
    unfold Objects.store
    rw [notNull, if_neg Bool.false_ne_true]
    refine .of_insert (fun other objects also => ?_) (fun fault refused => ?_)
    · cases inserted.symm.trans also
      exact ⟨rfl, rfl⟩
    · cases inserted.symm.trans refused
  have reads : host.CarriesOut again (Objects.readProperty object name) sent fun result last =>
      result = .ok handle ∧ last = ({ sent.1 with objects := next }, sent.2) := by
    refine .readProperty held (fun none => ?_) fun other also => ?_
    · cases none.symm.trans found
    · cases found.symm.trans also
      exact stores
  exact ⟨handle, ({ sent.1 with objects := next }, sent.2), asks.deliver_atOnce reads, grants,
    stands, wf.of_stored (HandleTable.stored_of_insert wf inserted), left⟩

end Moment.Asks

/-! ## Messages along names -/

namespace Host

/-- A message for the name is answered with no handle and changes nothing, from any moment with
that table and a heap of that kind. -/
def AnswersNothing (host : Host) (met : Heap → Prop) (name : String) (object : Handle)
    (before : Moment) : Prop :=
  ∀ again sent envelope, sent.1.objects = before.1.objects → met sent.2.heap →
    sent.Asks envelope object name →
    ((host.serving again).deliver envelope).EndsAtOnce sent Handle.null sent

/-- Messages for one name after the other, each to the handle that answered the one before, are
answered with a new handle each.  They may be sent from any moments with the table that the
one before left and a heap of that kind; at the end something is known of the handles. -/
def AnswersAlong (host : Host) (met : Heap → Prop) (done : List Handle → Moment → Prop) :
    List String → List Handle → Handle → Moment → Prop
  | [], given, _, before => done given before
  | name :: names, given, object, before =>
    ∀ again sent envelope, sent.1.objects = before.1.objects → met sent.2.heap →
      sent.Asks envelope object name →
      ∃ answer after, ((host.serving again).deliver envelope).EndsAtOnce sent answer after ∧
        sent.Grants answer after ∧
        host.AnswersAlong met done names (given ++ [answer]) answer after

theorem AnswersNothing.of_property?
    (held : before.1.objects.get object = .ok holder)
    (nothing : ∀ heap, met heap → heap.property? name holder = none ∨
      heap.property? name holder = some .null) :
    host.AnswersNothing met name object before := by
  intro again sent envelope same meets asks
  exact asks.deliver_nothing (same ▸ held) again (nothing _ meets)

/-- Where a name has one value in all the heaps, a message for it is answered with a handle of
the value. -/
theorem AnswersAlong.of_property?
    (wf : before.1.objects.WellFormed .null (.object host.globalObject))
    (held : before.1.objects.get object = .ok holder)
    (found : ∀ heap, met heap → heap.property? name holder = some value) (proper : value ≠ .null)
    (room : before.1.objects.HasRoom (count + 1))
    (rest : ∀ answer after, after.1.objects.WellFormed .null (.object host.globalObject) →
      before.1.objects.isLive answer = false →
      (∀ handle held, before.1.objects.get handle = .ok held →
        after.1.objects.get handle = .ok held) →
      after.1.objects.get answer = .ok value → after.1.objects.HasRoom count →
      host.AnswersAlong met done names (given ++ [answer]) answer after) :
    host.AnswersAlong met done (name :: names) given object before := by
  intro again sent envelope same meets asks
  rw [← same] at wf held room rest
  obtain ⟨answer, after, ends, grants, stands, later, left⟩ :=
    asks.deliver_granted held again wf (found _ meets) proper room
  exact ⟨answer, after, ends, grants, rest answer after later grants.fresh grants.keeps stands left⟩

end Host

/-! ## Documents -/

namespace Heap.Document

variable {document part : Document} {path rest : List Json.Step} {handles : List Handle}
  {last inner : Json} {items : List Json}

/-- Handles of the parts of a document on a path, wherever the heap is of that kind: they are
different, and each stands for a value that unfolds to the normal form of its part. -/
structure Walked (document : Document) (met : Heap → Prop) (path : List Json.Step)
    (handles : List Handle) (after : Moment) : Prop where
  length : handles.length = path.length + 1
  distinct : handles.Nodup
  renders : ∀ place handle, handles[place]? = some handle → ∃ part value,
    document.json.follow? (path.take place) = some part ∧
      after.1.objects.get handle = .ok value ∧
      ∀ heap, met heap → heap.toJson value = part.normalForm

/-- Handles of the parts of a document on a path, each a document of its own. -/
structure Trodden (document : Document) (met : Heap → Prop) (path : List Json.Step)
    (handles : List Handle) (after : Moment) : Prop where
  length : handles.length = path.length + 1
  distinct : handles.Nodup
  stands : ∀ place handle, handles[place]? = some handle → ∃ part : Document,
    document.json.follow? (path.take place) = some part.json ∧ part.json.WellFormed ∧
      after.1.objects.get handle = .ok part.value ∧ ∀ heap, met heap → part.In heap

theorem Trodden.walked (trodden : document.Trodden met path handles after) :
    document.Walked met path handles after where
  length := trodden.length
  distinct := trodden.distinct
  renders place handle given := by
    obtain ⟨part, followed, wellFormed, held, inside⟩ := trodden.stands place handle given
    exact ⟨part.json, part.value, followed, held,
      fun heap meets => part.toJson_value wellFormed (inside heap meets)⟩

theorem trodden_singleton (wellFormed : document.json.WellFormed)
    (held : after.1.objects.get answer = .ok document.value)
    (inside : ∀ heap, met heap → document.In heap) :
    document.Trodden met [] [answer] after := by
  refine ⟨rfl, List.pairwise_singleton _ _, fun place handle given => ?_⟩
  obtain ⟨rfl, rfl⟩ : place = 0 ∧ answer = handle := by
    cases place with
    | zero => exact ⟨rfl, Option.some.inj given⟩
    | succ place => cases given
  exact ⟨document, rfl, wellFormed, held, inside⟩

/-- A step to a part that is not null extends the path by a handle of the part. -/
theorem Trodden.concat {step : Json.Step} (trodden : document.Trodden met path handles before)
    (followed : document.json.follow? (path ++ [step]) = some part.json)
    (wellFormed : part.json.WellFormed) (inside : ∀ heap, met heap → part.In heap)
    (fresh : before.1.objects.isLive answer = false)
    (keeps : ∀ handle held, before.1.objects.get handle = .ok held →
      after.1.objects.get handle = .ok held)
    (held : after.1.objects.get answer = .ok part.value) :
    document.Trodden met (path ++ [step]) (handles ++ [answer]) after := by
  have whole := trodden.length
  refine ⟨?_, ?_, ?_⟩
  · rw [List.length_append, List.length_append, whole]
    rfl
  · rw [List.nodup_append]
    refine ⟨trodden.distinct, List.pairwise_singleton _ _, fun handle among other only same => ?_⟩
    obtain ⟨place, given⟩ := List.mem_iff_getElem?.mp among
    obtain ⟨_, -, -, live, -⟩ := trodden.stands place handle given
    rw [List.mem_singleton.mp only] at same
    rw [← same, HandleTable.isLive, live] at fresh
    cases fresh
  · intro place handle given
    rcases getElem?_append_cases given with ⟨rfl, rfl⟩ | before
    · refine ⟨part, ?_, wellFormed, held, inside⟩
      rw [List.take_of_length_le]
      · exact followed
      · rw [List.length_append, whole]
        exact Nat.le_refl _
    · have within : place ≤ path.length := by
        have reached := (List.getElem?_eq_some_iff.mp before).1
        omega
      obtain ⟨there, followed, wellFormed, live, inside⟩ := trodden.stands place handle before
      rw [List.take_append_of_le_length within]
      exact ⟨there, followed, wellFormed, keeps _ _ live, inside⟩

/-- From a part on, every step of a path that does not lead to null is answered. -/
theorem answersAlong_of_trodden
    (finish : ∀ (last : Document) handles object after, last.json = inner →
      last.json.WellFormed → (∀ heap, met heap → last.In heap) →
      after.1.objects.WellFormed .null (.object host.globalObject) →
      after.1.objects.get object = .ok last.value → handles.getLast? = some object →
      document.Trodden met (path ++ rest) handles after → done handles after)
    (wf : before.1.objects.WellFormed .null (.object host.globalObject))
    (trodden : document.Trodden met path handles before) (lastly : handles.getLast? = some object)
    (here : document.json.follow? path = some part.json) (wellFormed : part.json.WellFormed)
    (inside : ∀ heap, met heap → part.In heap)
    (held : before.1.objects.get object = .ok part.value)
    (followed : part.json.follow? rest = some inner) (proper : inner ≠ .null)
    (room : before.1.objects.HasRoom rest.length) :
    host.AnswersAlong met done (rest.map Json.Step.toName) handles object before := by
  induction rest generalizing part path handles object before with
  | nil =>
      rw [List.append_nil] at finish
      exact finish part handles object before (Option.some.inj followed) wellFormed inside wf held
        lastly trodden
  | cons step rest ih =>
      obtain ⟨json, stepped, onwards⟩ := Json.follow?_cons.mp followed
      obtain ⟨fields, container, found⟩ := Json.get?_of_step? stepped
      obtain ⟨child, rfl, -, under⟩ := part.property?_of_get? wellFormed container found
      have fine : child.json.WellFormed :=
        (Json.wellFormed_of_fields? wellFormed container).2 _ (Fields.mem_of_get? found)
      have among : ∀ heap, met heap → child.In heap :=
        fun heap meets => (under heap (inside heap meets)).2
      have there := Json.follow?_concat here stepped
      rw [List.map_cons]
      refine .of_property? wf held (fun heap meets => (under heap (inside heap meets)).1)
        (child.value_ne_null (Json.ne_null_of_follow? onwards proper)) room ?_
      intro answer after later fresh keeps stands left
      refine ih ?_ later (trodden.concat there fine among fresh keeps stands) ?_ there fine among
        stands onwards left
      · rw [List.append_assoc]
        exact finish
      · exact List.getLast?_concat

/-- What a step into nothing is answered with. -/
theorem answersNothing_of_lacks {step : Json.Step} (wellFormed : part.json.WellFormed)
    (inside : ∀ heap, met heap → part.In heap)
    (held : before.1.objects.get object = .ok part.value) (lacks : part.json.Lacks step) :
    host.AnswersNothing met step.toName object before := by
  refine .of_property? held fun heap meets => ?_
  obtain ⟨fields, container, absent | null⟩ := lacks.get?
  · exact .inl (part.property?_of_absent wellFormed container absent (inside heap meets))
  · obtain ⟨child, same, -, under⟩ := part.property?_of_get? wellFormed container null
    rw [(under heap (inside heap meets)).1]
    obtain ⟨early, json⟩ := child
    cases same
    exact .inr (congrArg some (by rw [value, ofJson]))

/-- An array answers for its length. -/
theorem answersAlong_length (wellFormed : part.json.WellFormed)
    (inside : ∀ heap, met heap → part.In heap)
    (wf : before.1.objects.WellFormed .null (.object host.globalObject))
    (held : before.1.objects.get object = .ok part.value) (array : part.json = .array items)
    (room : before.1.objects.HasRoom 1) :
    host.AnswersAlong met (fun counts counted => ∃ count, counts = [count] ∧
      counted.1.objects.get count = .ok (.number items.length.toFloat)) ["length"] [] object
      before := by
  have container : part.json.fields? = some (Fields.ofList (Json.entries items)) := by
    rw [array]
    rfl
  have found : Fields.get? "length" (Fields.ofList (Json.entries items)) =
      some (.number items.length.toFloat) :=
    (Fields.get?_ofList_iff (Json.nodup_names_entries items)).mpr
      (Json.mem_entries.mpr (.inr ⟨rfl, rfl⟩))
  obtain ⟨child, same, -, under⟩ := part.property?_of_get? wellFormed container found
  have number : child.value = .number items.length.toFloat := by
    rw [value, same, ofJson]
  refine .of_property? wf held (fun heap meets => (under heap (inside heap meets)).1) ?_ room ?_
  · rw [number]
    intro same
    cases same
  · intro answer after _ _ _ stands _
    exact ⟨answer, rfl, number ▸ stands⟩

end Heap.Document

open Heap (Document)

/-- What is known at the end of a path through a document.  A step into nothing is answered with
no handle, and an array answers for its length. -/
structure Host.WalksTo (host : Host) (document : Document) (met : Heap → Prop)
    (path : List Json.Step) (part : Json) (handles : List Handle) (after : Moment) : Prop where
  walked : document.Walked met path handles after
  nothing : ∀ last step, handles.getLast? = some last → part.Lacks step →
    host.AnswersNothing met step.toName last after
  counted : ∀ last items, handles.getLast? = some last → part = .array items →
    after.1.objects.HasRoom 1 →
    host.AnswersAlong met (fun counts later => ∃ count, counts = [count] ∧
      later.1.objects.get count = .ok (.number items.length.toFloat)) ["length"] [] last after

/--
In a context that evolved from a new one, the document that is installed under a name of the
global object can be walked.  Along every path to a part that is not null the messages, for
the name and then for the steps, are answered with a new handle each as far as there is room,
and at the end the handles stand for the parts on the path.
-/
theorem document_walked {document : Document} {id : UInt32} {events : List Context.Event}
    (reached : (Context.new host id).Evolves events before.1)
    (wellFormed : document.json.WellFormed) :
    (document.json = .null →
      host.AnswersNothing (document.Installed host.globalObject name) name Handle.global
        before) ∧
    ∀ path part, document.json.follow? path = some part → part ≠ .null →
      before.1.objects.HasRoom (path.length + 1) →
      host.AnswersAlong (document.Installed host.globalObject name)
        (host.WalksTo document (document.Installed host.globalObject name) path part)
        (name :: path.map Json.Step.toName) [] Handle.global before := by
  have wf := reached.wellFormed_of_new
  have held : before.1.objects.get Handle.global = .ok (.object host.globalObject) :=
    (HandleTable.get_eq_ok_iff wf).mpr wf.global_slot
  refine ⟨fun null => ?_, fun path part followed proper room => ?_⟩
  · refine .of_property? held fun heap installed => .inr (installed.1.trans ?_)
    rw [Document.value, null, Heap.ofJson]
  · refine .of_property? wf held (fun heap installed => installed.1)
      (document.value_ne_null (Json.ne_null_of_follow? followed proper)) room ?_
    intro answer after later fresh keeps stands left
    have inside (heap : Heap) (installed : document.Installed host.globalObject name heap) :
        document.In heap := installed.2
    refine Document.answersAlong_of_trodden ?_ later
      (Document.trodden_singleton wellFormed stands inside) rfl rfl wellFormed inside stands
      followed proper left
    intro last handles object after same fine among later held lastly trodden
    subst same
    refine ⟨trodden.walked, fun other step also lacks => ?_, fun other items also array room => ?_⟩
    · cases lastly.symm.trans also
      exact Document.answersNothing_of_lacks fine among held lacks
    · cases lastly.symm.trans also
      exact Document.answersAlong_length fine among later held array room

/-- The nested lists, made in a heap with an empty global object. -/
def Heap.Document.nested : Document :=
  ⟨⟨#[[]]⟩, Heap.nested⟩

/-- A context with the objects library and with a message for the settings in its memory; the
nested lists are the settings. -/
def Moment.configured : Moment :=
  .withHeap (.withLibrary (.owning .offering (.page 1
    (Wire.encodeWord Handle.global ++ Text.Utf8.encode "settings")) false) Objects.library)
    (Document.nested.made.set 0 "settings" Document.nested.value) #[]

/-- The message is answered, and so are those for a number deep in the settings. -/
theorem document_walked_nested :
    ∃ answer after, ((Host.offering.serving Host.trapping).deliver ⟨2, 6, 0, 12⟩).EndsAtOnce
        Moment.configured answer after ∧
      Moment.configured.Grants answer after ∧
      Host.offering.AnswersAlong (Document.nested.Installed 0 "settings")
        (Host.offering.WalksTo Document.nested (Document.nested.Installed 0 "settings")
          [.key "list", .index 2, .key "half"] (.number 0.5))
        ["list", "2", "half"] [answer] answer after := by
  have registers : (Context.new Host.offering mainContext).Step [.registered Objects.library]
      { Context.new Host.offering mainContext with libraries := ⟨[Objects.library]⟩ } :=
    .register Objects.library
  have placed : Context.Step { Context.new Host.offering mainContext with
      libraries := ⟨[Objects.library]⟩ } [] Moment.configured.1 :=
    .aside ⟨rfl, rfl, rfl, fun _ => rfl⟩
  have reached := registers.evolves.trans placed.evolves
  have asks : Moment.configured.Asks ⟨2, 6, 0, 12⟩ Handle.global "settings" :=
    ⟨rfl, Moment.reaches_iff.mpr
      ⟨rfl, Moment.payloadOf_of_page rfl rfl rfl rfl (by decide)⟩⟩
  have room : Moment.configured.1.objects.HasRoom 4 := by
    unfold HandleTable.HasRoom
    decide
  have proper : Json.number 0.5 ≠ .null := by
    intro same
    cases same
  exact (document_walked reached Heap.wellFormed_nested).2
    [.key "list", .index 2, .key "half"] (.number 0.5) rfl proper room Host.trapping
    Moment.configured ⟨2, 6, 0, 12⟩ rfl
    (Document.nested.installed_set "settings" (Nat.lt_succ_self 0)) asks

end WasmBridge
