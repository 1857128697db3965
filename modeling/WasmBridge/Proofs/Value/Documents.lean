import WasmBridge.Proofs.Value.NormalForm

/-!
# Documents made in a heap

Making a JSON value in a heap leaves the objects alone that are there, so every part of a
document is made of objects of its own, and an object refers to younger ones only.  That is
why no reference leads back and the document unfolds to its normal form.
-/

namespace WasmBridge.Heap

variable {heap : Heap} {json : Json} {last : HostValue} {id : ObjectId} {name : String}
  {fields : Fields Json} {names : List String} {path passed : List ObjectId}

/-! ## What stays -/

theorem properties_set (heap : Heap) (id : ObjectId) (name : String) (value : HostValue)
    (other : ObjectId) :
    (heap.set id name value).properties other =
      if other = id ∧ id < heap.objects.size then Fields.set name value (heap.properties id)
      else heap.properties other := by
  unfold Heap.properties Heap.set
  rw [Array.getD_eq_getD_getElem?, Array.getD_eq_getD_getElem?, Array.getD_eq_getD_getElem?,
    Array.getElem?_modify]
  by_cases same : id = other
  · subst same
    rw [if_pos rfl]
    by_cases present : id < heap.objects.size
    · rw [if_pos ⟨rfl, present⟩, Array.getElem?_eq_getElem present]
      rfl
    · rw [if_neg fun both => present both.2, Array.getElem?_eq_none (Nat.le_of_not_lt present)]
      rfl
  · rw [if_neg same, if_neg fun both => same both.1.symm]

theorem size_set (heap : Heap) (id : ObjectId) (name : String) (value : HostValue) :
    (heap.set id name value).objects.size = heap.objects.size :=
  Array.size_modify

theorem size_allocate (heap : Heap) : heap.allocate.2.objects.size = heap.objects.size + 1 :=
  Array.size_push _

/-- The heap has grown, and of the objects that were there only one may have changed. -/
structure GrowsBeside (id : ObjectId) (before after : Heap) : Prop where
  size_le : before.objects.size ≤ after.objects.size
  properties_eq : ∀ other, other < before.objects.size → other ≠ id →
    after.properties other = before.properties other

theorem GrowsBeside.refl (id : ObjectId) (heap : Heap) : GrowsBeside id heap heap :=
  ⟨Nat.le_refl _, fun _ _ _ => rfl⟩

theorem GrowsBeside.trans {before middle after : Heap} (first : GrowsBeside id before middle)
    (second : GrowsBeside id middle after) : GrowsBeside id before after where
  size_le := Nat.le_trans first.size_le second.size_le
  properties_eq other present beside :=
    (second.properties_eq other (Nat.lt_of_lt_of_le present first.size_le) beside).trans
      (first.properties_eq other present beside)

/-- What leaves all objects alone leaves all but one alone. -/
theorem GrowsBeside.of_all {before after : Heap}
    (grows : GrowsBeside before.objects.size before after) (id : ObjectId) :
    GrowsBeside id before after where
  size_le := grows.size_le
  properties_eq other present _ := grows.properties_eq other present (Nat.ne_of_lt present)

theorem growsBeside_allocate (heap : Heap) (id : ObjectId) :
    GrowsBeside id heap heap.allocate.2 where
  size_le := size_allocate heap ▸ Nat.le_succ _
  properties_eq other _ _ := properties_allocate heap other

theorem growsBeside_set (heap : Heap) (id : ObjectId) (name : String) (value : HostValue) :
    GrowsBeside id heap (heap.set id name value) where
  size_le := Nat.le_of_eq (size_set heap id name value).symm
  properties_eq other _ beside := by
    rw [properties_set, if_neg fun both => beside both.1]

mutual

/-- Making a JSON value leaves every object alone. -/
theorem growsBeside_ofJson (heap : Heap) :
    ∀ json : Json, GrowsBeside heap.objects.size heap (heap.ofJson json).2
  | .null => .refl _ _
  | .bool _ => .refl _ _
  | .integer _ => .refl _ _
  | .number _ => .refl _ _
  | .string _ => .refl _ _
  | .array items => by
    unfold ofJson
    exact ((growsBeside_allocate heap _).trans (growsBeside_setItems _ _ _ items)).trans
      (growsBeside_set _ _ _ _)
  | .object fields => by
    unfold ofJson
    exact (growsBeside_allocate heap _).trans (growsBeside_setFields _ _ fields)

theorem growsBeside_setItems (heap : Heap) (id : ObjectId) (place : Nat) :
    ∀ items : List Json, GrowsBeside id heap (heap.setItems id place items)
  | [] => .refl _ _
  | item :: rest => by
    unfold setItems
    exact (((growsBeside_ofJson heap item).of_all id).trans (growsBeside_set _ _ _ _)).trans
      (growsBeside_setItems _ _ _ rest)

theorem growsBeside_setFields (heap : Heap) (id : ObjectId) :
    ∀ fields : List (String × Json), GrowsBeside id heap (heap.setFields id fields)
  | [] => .refl _ _
  | (name, field) :: rest => by
    unfold setFields
    exact (((growsBeside_ofJson heap field).of_all id).trans (growsBeside_set _ _ _ _)).trans
      (growsBeside_setFields _ _ rest)

end

/-! ## Arrays are objects -/

theorem ofJson_object (heap : Heap) (fields : List (String × Json)) :
    heap.ofJson (.object fields) =
      (.object heap.objects.size, heap.allocate.2.setFields heap.objects.size fields) := by
  rw [ofJson]
  rfl

theorem setFields_cons (heap : Heap) (id : ObjectId) (field : String × Json)
    (rest : List (String × Json)) :
    heap.setFields id (field :: rest) =
      ((heap.ofJson field.2).2.set id field.1 (heap.ofJson field.2).1).setFields id rest := by
  rw [setFields]

theorem setFields_append (heap : Heap) (id : ObjectId) (first rest : List (String × Json)) :
    heap.setFields id (first ++ rest) = (heap.setFields id first).setFields id rest := by
  induction first generalizing heap with
  | nil => rw [List.nil_append, setFields]
  | cons field others ih => rw [List.cons_append, setFields_cons, setFields_cons, ih]

theorem setItems_eq (heap : Heap) (id : ObjectId) (place : Nat) (items : List Json) :
    heap.setItems id place items =
      heap.setFields id ((items.zipIdx place).map fun (item, place) => (toString place, item)) := by
  induction items generalizing heap place with
  | nil => rw [setItems, List.zipIdx_nil, List.map_nil, setFields]
  | cons item rest ih =>
      rw [setItems, List.zipIdx_cons, List.map_cons, setFields_cons, ← ih]

/-- An array is made in the same way as its object. -/
theorem ofJson_array (heap : Heap) (items : List Json) :
    heap.ofJson (.array items) = heap.ofJson (.object (Json.entries items)) := by
  rw [ofJson_object, Json.entries, setFields_append, ← setItems_eq, setFields_cons, setFields,
    ofJson, ofJson]
  rfl

/-! ## Documents -/

/-- A JSON value and the heap in which it was made. -/
structure Document where
  early : Heap
  json : Json

namespace Document

variable {document : Document} {agrees : Heap → Prop}

/-- What was made of the JSON value. -/
def value (document : Document) : HostValue :=
  (document.early.ofJson document.json).1

/-- The heap with all the objects that were made. -/
def made (document : Document) : Heap :=
  (document.early.ofJson document.json).2

/-- The heap has the objects of the document as they were made. -/
def In (document : Document) (heap : Heap) : Prop :=
  ∀ id, document.early.objects.size ≤ id → id < document.made.objects.size →
    heap.properties id = document.made.properties id

/-- The value was made of the JSON value, of objects younger than the given one, in a document
that is in all these heaps. -/
def Covers (agrees : Heap → Prop) (id : ObjectId) (json : Json) (value : HostValue) : Prop :=
  ∃ part : Document, part.json = json ∧ part.value = value ∧ id < part.early.objects.size ∧
    ∀ heap, agrees heap → part.In heap

/-- The properties that an object is given are those of the record of its fields. -/
theorem related_setFields {start : Heap} {before : Fields Json} (fields : List (String × Json))
    (present : id < start.objects.size)
    (apart : ∀ heap, agrees heap → ∀ other, start.objects.size ≤ other →
      other < (start.setFields id fields).objects.size →
      heap.properties other = (start.setFields id fields).properties other)
    (related : Fields.Related (Covers agrees id) before (start.properties id)) :
    Fields.Related (Covers agrees id)
      (fields.foldl (fun done (name, value) => Fields.set name value done) before)
      ((start.setFields id fields).properties id) := by
  induction fields generalizing start before with
  | nil =>
      rw [setFields]
      exact related
  | cons field rest ih =>
      have making := growsBeside_ofJson start field.2
      have putting := growsBeside_set (start.ofJson field.2).2 id field.1 (start.ofJson field.2).1
      have later := growsBeside_setFields
        ((start.ofJson field.2).2.set id field.1 (start.ofJson field.2).1) id rest
      rw [setFields_cons] at apart ⊢
      have pair : Covers agrees id field.2 (start.ofJson field.2).1 := by
        refine ⟨⟨start, field.2⟩, rfl, rfl, present, fun heap agreeing other young made => ?_⟩
        have beside : other ≠ id := Nat.ne_of_gt (Nat.lt_of_lt_of_le present young)
        have stays := Nat.lt_of_lt_of_le made putting.size_le
        rw [apart heap agreeing other young (Nat.lt_of_lt_of_le stays later.size_le),
          later.properties_eq other stays beside, putting.properties_eq other made beside]
        rfl
      have inside : id < (start.ofJson field.2).2.objects.size :=
        Nat.lt_of_lt_of_le present making.size_le
      refine ih ?_ ?_ ?_
      · rwa [size_set]
      · intro heap agreeing other young made
        rw [size_set] at young
        exact apart heap agreeing other (Nat.le_trans making.size_le young) made
      · rw [properties_set, if_pos ⟨rfl, inside⟩,
          making.properties_eq id present (Nat.ne_of_lt present)]
        exact related.set pair

/-- The object of a document has under each name what was made of the field, of younger
objects. -/
theorem object_parts (document : Document) {fields : List (String × Json)}
    (made_eq : document.early.ofJson document.json = document.early.ofJson (.object fields)) :
    ∃ id, document.value = .object id ∧ document.early.objects.size ≤ id ∧
      (∀ heap, document.In heap → heap.properties id = document.made.properties id) ∧
      Fields.Related (Covers document.In id) (Fields.ofList fields)
        (document.made.properties id) := by
  obtain ⟨early, json⟩ := document
  have grows := growsBeside_setFields early.allocate.2 early.objects.size fields
  have made : early.objects.size < early.allocate.2.objects.size :=
    size_allocate early ▸ Nat.lt_succ_self _
  have whole : (⟨early, json⟩ : Document).made =
      early.allocate.2.setFields early.objects.size fields := by
    unfold Document.made
    rw [made_eq, ofJson_object]
  refine ⟨early.objects.size, ?_, Nat.le_refl _, fun heap has => ?_, ?_⟩
  · unfold value
    rw [made_eq, ofJson_object]
  · exact has _ (Nat.le_refl _) (whole ▸ Nat.lt_of_lt_of_le made grows.size_le)
  · rw [whole]
    refine related_setFields fields made (fun heap has other young there => ?_) ?_
    · rw [← whole] at there ⊢
      exact has other (Nat.le_trans (Nat.le_of_lt made) young) there
    · rw [properties_allocate, properties_of_absent (Nat.le_refl _)]
      exact .nil

/-- Objects and arrays become objects. -/
theorem parts (document : Document) (wellFormed : document.json.WellFormed)
    (container : document.json.fields? = some fields) :
    ∃ id, document.value = .object id ∧ document.early.objects.size ≤ id ∧
      (∀ heap, document.In heap → heap.properties id = document.made.properties id) ∧
      Fields.Related (Covers document.In id) fields (document.made.properties id) := by
  obtain ⟨early, json⟩ := document
  dsimp only at wellFormed container ⊢
  cases wellFormed with
  | @array items fits each =>
      cases container
      exact object_parts ⟨early, .array items⟩ (ofJson_array early items)
  | @object fields ordered each =>
      cases container
      have parts := object_parts ⟨early, .object fields⟩ rfl
      rwa [Fields.ofList_of_ordered ordered] at parts
  | _ => cases container

/-- Other values stand for themselves. -/
theorem leaf (document : Document) (wellFormed : document.json.WellFormed)
    (flat : document.json.fields? = none) :
    document.value.asObject? = none ∧
      ∀ heap path, toJsonBelow heap path document.value = document.json.normalForm := by
  obtain ⟨early, json⟩ := document
  unfold value
  dsimp only at wellFormed flat ⊢
  cases wellFormed with
  | array => cases flat
  | object => cases flat
  | integer fits =>
      rw [ofJson, Json.normalForm]
      refine ⟨rfl, fun heap path => ?_⟩
      rw [toJsonBelow, Json.ofFloat_of_finite (Decimal.finite_floatOfInt fits)]
  | number finite =>
      rw [ofJson, Json.normalForm]
      refine ⟨rfl, fun heap path => ?_⟩
      rw [toJsonBelow, Json.ofFloat_of_finite finite]
  | _ =>
      rw [ofJson, Json.normalForm]
      exact ⟨rfl, fun heap path => by rw [toJsonBelow]⟩

/-- Only objects and arrays become objects, and not older ones. -/
theorem container_of_object (document : Document) (wellFormed : document.json.WellFormed)
    (object : document.value = .object id) :
    document.early.objects.size ≤ id ∧ ∃ fields, document.json.fields? = some fields := by
  cases container : document.json.fields? with
  | none =>
      have flat := (document.leaf wellFormed container).1
      rw [object] at flat
      cases flat
  | some fields =>
      obtain ⟨_, value, young, -⟩ := document.parts wellFormed container
      cases object.symm.trans value
      exact ⟨young, fields, rfl⟩

/-- What is under a name of a document is a document again, the same in every heap and of
younger objects. -/
theorem property?_of_get? {part : Json} (document : Document)
    (wellFormed : document.json.WellFormed) (container : document.json.fields? = some fields)
    (found : Fields.get? name fields = some part) :
    ∃ child : Document, child.json = part ∧
      (∀ id, document.value = .object id → id < child.early.objects.size) ∧
      ∀ heap, document.In heap →
        heap.property? name document.value = some child.value ∧ child.In heap := by
  obtain ⟨id, value, -, there, related⟩ := document.parts wellFormed container
  have under := related.get? name
  rw [found] at under
  cases read : Fields.get? name (document.made.properties id) with
  | none => rw [read] at under; cases under
  | some property =>
      rw [read] at under
      obtain ⟨child, same, rfl, younger, among⟩ : Covers document.In id part property := by
        cases under
        assumption
      refine ⟨child, same, fun other object => ?_, fun heap has => ⟨?_, among heap has⟩⟩
      · cases value.symm.trans object
        exact younger
      · rw [value, ← read, ← there heap has]
        rfl

theorem property?_of_absent (document : Document) (wellFormed : document.json.WellFormed)
    (container : document.json.fields? = some fields) (absent : Fields.get? name fields = none)
    (has : document.In heap) : heap.property? name document.value = none := by
  obtain ⟨id, value, -, there, related⟩ := document.parts wellFormed container
  have under := related.get? name
  rw [absent, ← there heap has] at under
  rw [value]
  cases read : heap.property? name (.object id) with
  | none => rfl
  | some property =>
      have found : Fields.get? name (heap.properties id) = some property := read
      rw [found] at under
      cases under

/-- Only null is made of null. -/
theorem value_ne_null (document : Document) (proper : document.json ≠ .null) :
    document.value ≠ .null := by
  obtain ⟨early, json⟩ := document
  unfold value
  cases json with
  | null => exact absurd rfl proper
  | _ =>
      rw [ofJson]
      intro same
      cases same

/-- The document was made and put under a name of an object that was there before. -/
def Installed (document : Document) (holder : ObjectId) (name : String) (heap : Heap) : Prop :=
  heap.get? holder name = some document.value ∧ document.In heap

theorem installed_set (document : Document) {holder : ObjectId} (name : String)
    (present : holder < document.early.objects.size) :
    document.Installed holder name (document.made.set holder name document.value) := by
  have grows := growsBeside_ofJson document.early document.json
  constructor
  · unfold Heap.get?
    rw [properties_set, if_pos ⟨rfl, Nat.lt_of_lt_of_le present grows.size_le⟩]
    exact Fields.get?_set_self _ _ _
  · intro id young _
    have beside : id ≠ holder := Nat.ne_of_gt (Nat.lt_of_lt_of_le present young)
    rw [properties_set, if_neg fun both => beside both.1]

/-! ## Unfolding a document -/

/-- Below older objects a document unfolds to its normal form. -/
theorem toJsonBelow_value (document : Document) (wellFormed : document.json.WellFormed)
    (has : document.In heap) (older : ∀ id ∈ path, id < document.early.objects.size) :
    heap.toJsonBelow path document.value = document.json.normalForm := by
  generalize whole : document.json = json at wellFormed ⊢
  induction json using Json.fields_induction generalizing document path with
  | flat json none =>
      subst whole
      exact (document.leaf wellFormed none).2 heap path
  | container json fields some ih =>
      subst whole
      obtain ⟨id, value, young, there, related⟩ := document.parts wellFormed some
      have fresh : id ∉ path := fun opened => Nat.not_lt.mpr young (older id opened)
      have each := (Json.wellFormed_of_fields? wellFormed some).2
      rw [value, toJsonBelow_object, if_neg fresh, Json.normalForm_of_fields? some, there heap has]
      congr 1
      refine related.map_eq fun field member child covers => ?_
      obtain ⟨part, same, rfl, younger, among⟩ := covers
      refine ih field member part (among heap has) (fun other opened => ?_) same (each field member)
      rcases List.mem_cons.mp opened with rfl | before
      · exact younger
      · exact Nat.lt_trans (older other before) (Nat.lt_of_le_of_lt young younger)

theorem toJson_value (document : Document) (wellFormed : document.json.WellFormed)
    (has : document.In heap) : heap.toJson document.value = document.json.normalForm :=
  document.toJsonBelow_value wellFormed has nofun

/-- Every value in a document is a document again, of objects younger than the ones that
lead to it. -/
theorem of_leads (document : Document) (leads : heap.Leads document.value names passed last)
    (wellFormed : document.json.WellFormed) (has : document.In heap) :
    ∃ part : Document, part.value = last ∧ part.json.WellFormed ∧ part.In heap ∧ passed.Nodup ∧
      document.early.objects.size ≤ part.early.objects.size ∧
      ∀ id ∈ passed, document.early.objects.size ≤ id ∧ id < part.early.objects.size := by
  generalize start : document.value = value at leads
  induction leads generalizing document with
  | here =>
      exact ⟨document, start, wellFormed, has, List.nodup_nil, Nat.le_refl _, nofun⟩
  | @into id name _ passed child _ found _ ih =>
      obtain ⟨young, fields, container⟩ := document.container_of_object wellFormed start
      have read : heap.property? name document.value = some child := start ▸ found
      cases there : Fields.get? name fields with
      | none => cases read.symm.trans (document.property?_of_absent wellFormed container there has)
      | some field =>
          obtain ⟨sub, rfl, younger, among⟩ :=
            document.property?_of_get? wellFormed container there
          have younger := younger id start
          have fine := (Json.wellFormed_of_fields? wellFormed container).2
          cases read.symm.trans (among heap has).1
          obtain ⟨part, reached, fine, inside, distinct, down, between⟩ :=
            ih _ (fine _ (Fields.mem_of_get? there)) (among heap has).2 rfl
          have deep : document.early.objects.size ≤ sub.early.objects.size :=
            Nat.le_trans young (Nat.le_of_lt younger)
          refine ⟨part, reached, fine, inside, ?_, Nat.le_trans deep down, ?_⟩
          · exact List.nodup_cons.mpr
              ⟨fun again => Nat.not_lt.mpr (between id again).1 younger, distinct⟩
          · intro other member
            rcases List.mem_cons.mp member with rfl | later
            · exact ⟨young, Nat.lt_of_lt_of_le younger down⟩
            · exact (between other later).imp_left (Nat.le_trans deep)

end Document

/-! ## There and back -/

/-- A JSON value read into a heap and rendered again. -/
def throughHost (heap : Heap) (json : Json) : Json :=
  (heap.ofJson json).2.toJson (heap.ofJson json).1

theorem throughHost_eq (heap : Heap) (wellFormed : json.WellFormed) :
    heap.throughHost json = json.normalForm :=
  Document.toJson_value ⟨heap, json⟩ wellFormed fun _ _ _ => rfl

/--
A JSON value that is read into a heap and rendered again comes back in its normal form, and
so it does the second time.  The normal form has the normal form of every part under the
names of the steps to it, nothing else but the lengths of the arrays, and no two parts in one
place.  On no way through the objects that were made does one come back to an object that
was passed.
-/
theorem throughHost_normalForm (wellFormed : json.WellFormed) :
    (∀ heap : Heap, heap.throughHost json = json.normalForm) ∧
    (∀ heap later : Heap, later.throughHost (heap.throughHost json) = heap.throughHost json) ∧
    json.normalForm.normalForm = json.normalForm ∧
    (∀ names inner, json.normalForm.at? names = some inner ↔
      (∃ path part, path.map Json.Step.toName = names ∧ json.follow? path = some part ∧
        inner = part.normalForm) ∨
      ∃ path items, path.map Json.Step.toName ++ ["length"] = names ∧
        json.follow? path = some (.array items) ∧ inner = .number items.length.toFloat) ∧
    (∀ left right, (json.follow? left).isSome → (json.follow? right).isSome →
      left.map Json.Step.toName = right.map Json.Step.toName → left = right) ∧
    ∀ (heap : Heap) names passed last,
      (heap.ofJson json).2.Leads (heap.ofJson json).1 names passed last →
      passed.Nodup ∧ ∀ id ∈ passed, last ≠ .object id := by
  refine ⟨fun heap => throughHost_eq heap wellFormed, ?_, Json.normalForm_normalForm json,
    fun _ _ => Json.at?_normalForm_iff, ?_, ?_⟩
  · intro heap later
    rw [throughHost_eq heap wellFormed, throughHost_eq later wellFormed.normalForm,
      Json.normalForm_normalForm]
  · intro left right found too
    obtain ⟨_, found⟩ := Option.isSome_iff_exists.mp found
    obtain ⟨_, too⟩ := Option.isSome_iff_exists.mp too
    exact Json.eq_of_follow? found too
  · intro heap names passed last leads
    obtain ⟨part, reached, fine, -, distinct, -, between⟩ :=
      Document.of_leads ⟨heap, json⟩ leads wellFormed fun _ _ _ => rfl
    refine ⟨distinct, fun id before same => ?_⟩
    have young := (part.container_of_object fine (reached.trans same)).1
    exact Nat.not_lt.mpr young (between id before).2

/-- Lists in a list, a text that looks like a circle, and numbers of both kinds. -/
def nested : Json :=
  .object [("circle", .string circular),
    ("list", .array [.integer 7, .array [], .object [("half", .number 0.5), ("none", .null)]])]

theorem wellFormed_nested : nested.WellFormed := by
  have half : Json.WellFormed (.number 0.5) := .number ⟨false, _, _, rfl⟩
  have last : Json.WellFormed (.object [("half", .number 0.5), ("none", .null)]) := by
    refine .object (List.pairwise_pair.mpr (by decide)) ?_
    simp only [List.forall_mem_cons]
    exact ⟨half, .null, nofun⟩
  have list : Json.WellFormed
      (.array [.integer 7, .array [], .object [("half", .number 0.5), ("none", .null)]]) := by
    refine .array (by decide) ?_
    simp only [List.forall_mem_cons]
    exact ⟨.integer (by decide), .array (by decide) nofun, last, nofun⟩
  refine .object (List.pairwise_pair.mpr (by decide)) ?_
  simp only [List.forall_mem_cons]
  exact ⟨.string, list, nofun⟩

/-- The lists become objects. -/
theorem throughHost_normalForm_nested :
    nested.WellFormed ∧ throughHost {} nested = .object [("circle", .string circular),
      ("list", .object [("0", .number 7.0), ("1", .object [("length", .number 0.0)]),
        ("2", .object [("half", .number 0.5), ("none", .null)]), ("length", .number 3.0)])] := by
  refine ⟨wellFormed_nested, ?_⟩
  rw [(throughHost_normalForm wellFormed_nested).1]
  rfl

end WasmBridge.Heap
