import WasmBridge.Proofs.Value.Order

/-!
# Unfolding values

A value is rendered with a stack of the objects that are being rendered: an object is
pushed before its properties and popped after them.  `Renders` are the steps of this.
What they come to is read off the heap: along the names of properties from the root one
passes objects, and at every place the rendering shows the value that is found there.
-/

namespace WasmBridge

/-- A part of a JSON value, by the names of the fields that lead to it. -/
def Json.at? : List String → Json → Option Json
  | [], json => some json
  | name :: rest, json => (json.field? name).bind (at? rest)

namespace Heap

variable {heap : Heap} {root value : HostValue} {id : ObjectId} {path passed : List ObjectId}
  {names : List String} {json part : Json}

/-! ## Rendering with a stack -/

mutual

/-- A value is rendered with a stack, which may be another afterwards. -/
inductive Renders (heap : Heap) :
    List ObjectId → HostValue → Json → List ObjectId → Prop where
  | null {stack : List ObjectId} : Renders heap stack .null .null stack
  | function {stack : List ObjectId} {id : FunctionId} :
      Renders heap stack (.function id) .null stack
  | bool {stack : List ObjectId} {value : Bool} :
      Renders heap stack (.bool value) (.bool value) stack
  | number {stack : List ObjectId} {value : Float} :
      Renders heap stack (.number value) (.ofFloat value) stack
  | string {stack : List ObjectId} {text : String} :
      Renders heap stack (.string text) (.string text) stack
  | bytes {stack : List ObjectId} {value : Bytes} :
      Renders heap stack (.bytes value) (.array (value.map fun byte => .integer byte.toNat)) stack
  | circular {stack : List ObjectId} {id : ObjectId} (opened : id ∈ stack) :
      Renders heap stack (.object id) (.string circular) stack
  | object {stack after : List ObjectId} {id : ObjectId} {fields : List (String × Json)}
      (fresh : id ∉ stack)
      (children : RendersFields heap (id :: stack) (heap.properties id) fields after) :
      Renders heap stack (.object id) (.object fields) after.tail

/-- Properties are rendered one after the other. -/
inductive RendersFields (heap : Heap) :
    List ObjectId → Properties → List (String × Json) → List ObjectId → Prop where
  | nil {stack : List ObjectId} : RendersFields heap stack [] [] stack
  | cons {stack middle after : List ObjectId} {name : String} {value : HostValue} {json : Json}
      {rest : Properties} {fields : List (String × Json)}
      (first : Renders heap stack value json middle)
      (others : RendersFields heap middle rest fields after) :
      RendersFields heap stack ((name, value) :: rest) ((name, json) :: fields) after

end

/-! ## One object after the other -/

theorem properties_of_absent (absent : heap.objects.size ≤ id) : heap.properties id = [] := by
  unfold Heap.properties
  rw [Array.getD_eq_getD_getElem?, Array.getElem?_eq_none absent]
  rfl

/-- An object that is not open is unfolded property by property. -/
theorem toJsonBelow_object (heap : Heap) (path : List ObjectId) (id : ObjectId) :
    heap.toJsonBelow path (.object id) =
      if id ∈ path then .string circular
      else .object ((heap.properties id).map fun (name, value) =>
        (name, heap.toJsonBelow (id :: path) value)) := by
  rw [toJsonBelow]
  by_cases opened : id ∈ path
  · rw [dif_pos (List.contains_iff_mem.mpr opened), if_pos opened]
  · rw [dif_neg (mt List.contains_iff_mem.mp opened), if_neg opened]
    split
    · rfl
    · next absent =>
        rw [properties_of_absent (Nat.le_of_not_lt absent)]
        rfl

/-- What holds of the properties of an object once it is opened holds of the object. -/
theorem unfolding_induction (heap : Heap) {motive : List ObjectId → HostValue → Prop}
    (leaf : ∀ path value, value.asObject? = none → motive path value)
    (opened : ∀ path id, id ∈ path → motive path (.object id))
    (object : ∀ path id, id ∉ path →
      (∀ field ∈ heap.properties id, motive (id :: path) field.2) → motive path (.object id)) :
    ∀ path value, motive path value := by
  intro path value
  -- The induction is on the number of objects that are not open.
  induction left : heap.unopened path using Nat.strongRecOn generalizing path value with
  | ind count ih =>
      cases value with
      | object id =>
          by_cases before : id ∈ path
          · exact opened path id before
          · refine object path id before fun field member => ?_
            have present : id < heap.objects.size := by
              refine Nat.lt_of_not_le fun absent => ?_
              rw [properties_of_absent absent] at member
              cases member
            have fewer : heap.unopened (id :: path) < heap.unopened path :=
              unopened_cons_lt present
                (Bool.eq_false_iff.mpr (mt List.contains_iff_mem.mp before))
            exact ih _ (left ▸ fewer) _ _ rfl
      | _ => exact leaf path _ rfl

/-! ## The stack comes back -/

theorem renders_of_leaf {stack : List ObjectId} (flat : value.asObject? = none) :
    Renders heap stack value (heap.toJsonBelow stack value) stack := by
  cases value with
  | object id => cases flat
  | null => rw [toJsonBelow]; exact .null
  | function id => rw [toJsonBelow]; exact .function
  | bool value => rw [toJsonBelow]; exact .bool
  | number value => rw [toJsonBelow]; exact .number
  | string text => rw [toJsonBelow]; exact .string
  | bytes value => rw [toJsonBelow]; exact .bytes

theorem rendersFields_iff {stack after : List ObjectId} {properties : Properties}
    {fields : List (String × Json)}
    (each : ∀ field ∈ properties, ∀ json after, Renders heap stack field.2 json after ↔
      json = heap.toJsonBelow stack field.2 ∧ after = stack) :
    RendersFields heap stack properties fields after ↔
      fields = (properties.map fun (name, value) => (name, heap.toJsonBelow stack value)) ∧
        after = stack := by
  induction properties generalizing fields with
  | nil =>
      constructor
      · intro rendered
        cases rendered
        exact ⟨rfl, rfl⟩
      · rintro ⟨rfl, rfl⟩
        exact .nil
  | cons field rest ih =>
      have first := each field List.mem_cons_self
      have others (fields : List (String × Json)) :
          RendersFields heap stack rest fields after ↔ _ :=
        ih fun later member => each later (List.mem_cons_of_mem _ member)
      constructor
      · intro rendered
        cases rendered with
        | cons early late =>
            obtain ⟨rfl, rfl⟩ := (first _ _).mp early
            obtain ⟨rfl, rfl⟩ := (others _).mp late
            exact ⟨rfl, rfl⟩
      · rintro ⟨rfl, rfl⟩
        exact .cons ((first _ _).mpr ⟨rfl, rfl⟩) ((others _).mpr ⟨rfl, rfl⟩)

/-- Rendering a value has one result, and leaves the stack as it was. -/
theorem renders_iff {stack after : List ObjectId} :
    Renders heap stack value json after ↔
      json = heap.toJsonBelow stack value ∧ after = stack := by
  induction stack, value using unfolding_induction heap generalizing json after with
  | leaf stack value flat =>
      constructor
      · intro renders
        cases renders with
        | circular => cases flat
        | object => cases flat
        | _ => exact ⟨by rw [toJsonBelow], rfl⟩
      · rintro ⟨rfl, rfl⟩
        exact renders_of_leaf flat
  | opened stack id before =>
      rw [toJsonBelow_object, if_pos before]
      constructor
      · intro renders
        cases renders with
        | circular => exact ⟨rfl, rfl⟩
        | object fresh => exact absurd before fresh
      · rintro ⟨rfl, rfl⟩
        exact .circular before
  | object stack id fresh children =>
      rw [toJsonBelow_object, if_neg fresh]
      have each (fields : List (String × Json)) (after : List ObjectId) :
          RendersFields heap (id :: stack) (heap.properties id) fields after ↔ _ :=
        rendersFields_iff fun field member json after => children field member
      constructor
      · intro renders
        cases renders with
        | circular before => exact absurd before fresh
        | object _ rendered =>
            obtain ⟨rfl, rfl⟩ := (each _ _).mp rendered
            exact ⟨rfl, rfl⟩
      · rintro ⟨rfl, rfl⟩
        exact .object fresh ((each _ _).mpr ⟨rfl, rfl⟩)

/-! ## Paths through the heap -/

/-- From a value the names of properties lead past objects to another value. -/
inductive Leads (heap : Heap) :
    HostValue → List String → List ObjectId → HostValue → Prop where
  | here {value : HostValue} : Leads heap value [] [] value
  | into {id : ObjectId} {name : String} {names : List String} {passed : List ObjectId}
      {child value : HostValue} (found : heap.get? id name = some child)
      (rest : Leads heap child names passed value) :
      Leads heap (.object id) (name :: names) (id :: passed) value

/-- What stands for a value that was reached past objects: a value other than an object
stands for itself, an object that was passed for the circle, and any other object for
its properties. -/
inductive Shows (heap : Heap) (passed : List ObjectId) : HostValue → Json → Prop where
  | null : Shows heap passed .null .null
  | function {id : FunctionId} : Shows heap passed (.function id) .null
  | bool {value : Bool} : Shows heap passed (.bool value) (.bool value)
  | number {value : Float} : Shows heap passed (.number value) (.ofFloat value)
  | string {text : String} : Shows heap passed (.string text) (.string text)
  | bytes {value : Bytes} :
      Shows heap passed (.bytes value) (.array (value.map fun byte => .integer byte.toNat))
  | circular {id : ObjectId} (before : id ∈ passed) :
      Shows heap passed (.object id) (.string circular)
  | object {id : ObjectId} {fields : List (String × Json)} (fresh : id ∉ passed)
      (names : Fields.names fields = heap.names id) :
      Shows heap passed (.object id) (.object fields)

/-- A JSON value shows at every place what the heap has there, as far as no object is
passed twice. -/
def Unfolds (heap : Heap) (root : HostValue) (json : Json) : Prop :=
  ∀ names passed value, heap.Leads root names passed value → passed.Nodup →
    ∃ part, json.at? names = some part ∧ heap.Shows passed value part

theorem shows_toJsonBelow (heap : Heap) (path : List ObjectId) (value : HostValue) :
    heap.Shows path value (heap.toJsonBelow path value) := by
  cases value with
  | null => rw [toJsonBelow]; exact .null
  | function id => rw [toJsonBelow]; exact .function
  | bool value => rw [toJsonBelow]; exact .bool
  | number value => rw [toJsonBelow]; exact .number
  | string text => rw [toJsonBelow]; exact .string
  | bytes value => rw [toJsonBelow]; exact .bytes
  | object id =>
      rw [toJsonBelow_object]
      split
      · next before => exact .circular before
      · next fresh => exact .object fresh (Fields.names_map _ _)

theorem field?_toJsonBelow_of_leaf {name : String} (flat : value.asObject? = none) :
    (heap.toJsonBelow path value).field? name = none := by
  cases value with
  | object id => cases flat
  | number value =>
      rw [toJsonBelow]
      unfold Json.ofFloat
      split <;> rfl
  | _ =>
      rw [toJsonBelow]
      rfl

theorem field?_toJsonBelow_object (fresh : id ∉ path) (name : String) :
    (heap.toJsonBelow path (.object id)).field? name =
      (heap.get? id name).map (heap.toJsonBelow (id :: path)) := by
  rw [toJsonBelow_object, if_neg fresh]
  exact Fields.get?_map _ _ _

/-- The parts of an unfolding are the unfoldings of what is reached, below the objects
that were passed, as far as no object is passed twice. -/
theorem at?_toJsonBelow_iff :
    (heap.toJsonBelow path root).at? names = some part ↔
      ∃ passed value, heap.Leads root names passed value ∧ passed.Nodup ∧
        (∀ id ∈ passed, id ∉ path) ∧ part = heap.toJsonBelow (passed.reverse ++ path) value := by
  induction names generalizing root path with
  | nil =>
      constructor
      · intro found
        cases found
        exact ⟨[], root, .here, List.nodup_nil, nofun, rfl⟩
      · rintro ⟨passed, value, leads, -, -, rfl⟩
        cases leads
        rfl
  | cons name names ih =>
      constructor
      · intro found
        obtain ⟨child, inside, below⟩ := Option.bind_eq_some_iff.mp found
        cases root with
        | object id =>
            by_cases before : id ∈ path
            · rw [toJsonBelow_object, if_pos before] at inside
              cases inside
            · rw [field?_toJsonBelow_object before] at inside
              obtain ⟨value, there, rfl⟩ := Option.map_eq_some_iff.mp inside
              obtain ⟨passed, last, leads, distinct, apart, rfl⟩ := ih.mp below
              refine ⟨id :: passed, last, .into there leads, ?_, ?_, ?_⟩
              · refine List.nodup_cons.mpr ⟨fun again => ?_, distinct⟩
                exact apart id again List.mem_cons_self
              · intro other member
                rcases List.mem_cons.mp member with same | later
                · rwa [same]
                · exact fun among => apart other later (List.mem_cons_of_mem _ among)
              · rw [List.reverse_cons, List.append_assoc, List.singleton_append]
        | _ =>
            rw [field?_toJsonBelow_of_leaf rfl] at inside
            cases inside
      · rintro ⟨passed, value, leads, distinct, apart, rfl⟩
        cases leads with
        | @into id _ _ passed child _ found rest =>
            obtain ⟨fresh, distinct⟩ := List.nodup_cons.mp distinct
            have outside : id ∉ path := apart id List.mem_cons_self
            refine Option.bind_eq_some_iff.mpr ⟨heap.toJsonBelow (id :: path) child, ?_, ?_⟩
            · rw [field?_toJsonBelow_object outside, found]
              rfl
            · refine ih.mpr ⟨passed, value, rest, distinct, ?_, ?_⟩
              · intro other member among
                rcases List.mem_cons.mp among with same | among
                · exact fresh (same ▸ member)
                · exact apart other (List.mem_cons_of_mem _ member) among
              · rw [List.reverse_cons, List.append_assoc, List.singleton_append]

/-! ## The unfolding is settled -/

theorem Shows.of_mem_iff {others : List ObjectId} (same : ∀ id, id ∈ passed ↔ id ∈ others)
    (shown : heap.Shows passed value part) : heap.Shows others value part := by
  cases shown with
  | circular before => exact .circular ((same _).mp before)
  | object fresh names => exact .object (mt (same _).mpr fresh) names
  | null => exact .null
  | function => exact .function
  | bool => exact .bool
  | number => exact .number
  | string => exact .string
  | bytes => exact .bytes

/-- `Unfolds` below the objects of a path. -/
def UnfoldsBelow (heap : Heap) (path : List ObjectId) (root : HostValue) (json : Json) : Prop :=
  ∀ names passed value, heap.Leads root names passed value → passed.Nodup →
    (∀ id ∈ passed, id ∉ path) →
    ∃ part, json.at? names = some part ∧ heap.Shows (passed.reverse ++ path) value part

theorem unfoldsBelow_toJsonBelow (heap : Heap) (path : List ObjectId) (root : HostValue) :
    heap.UnfoldsBelow path root (heap.toJsonBelow path root) := by
  intro names passed value leads distinct apart
  exact ⟨_, at?_toJsonBelow_iff.mpr ⟨passed, value, leads, distinct, apart, rfl⟩,
    shows_toJsonBelow _ _ _⟩

theorem UnfoldsBelow.shows (unfolds : heap.UnfoldsBelow path root json) :
    heap.Shows path root json := by
  obtain ⟨part, found, shown⟩ := unfolds [] [] root .here List.nodup_nil nofun
  cases found
  exact shown

/-- Below an object the fields unfold its properties. -/
theorem UnfoldsBelow.field {fields : List (String × Json)} {name : String} (fresh : id ∉ path)
    (unfolds : heap.UnfoldsBelow path (.object id) (.object fields))
    (found : heap.get? id name = some value) :
    ∃ part, Fields.get? name fields = some part ∧ heap.UnfoldsBelow (id :: path) value part := by
  have below : ∀ names passed last, heap.Leads value names passed last → passed.Nodup →
      (∀ other ∈ passed, other ∉ id :: path) →
      ∃ part, ((Fields.get? name fields).bind (Json.at? names)) = some part ∧
        heap.Shows (passed.reverse ++ id :: path) last part := by
    intro names passed last leads distinct apart
    have outside : ∀ other ∈ id :: passed, other ∉ path := by
      intro other member
      rcases List.mem_cons.mp member with same | later
      · rwa [same]
      · exact fun among => apart other later (List.mem_cons_of_mem _ among)
    have distinct : (id :: passed).Nodup :=
      List.nodup_cons.mpr ⟨fun again => apart id again List.mem_cons_self, distinct⟩
    obtain ⟨part, there, shown⟩ := unfolds _ _ _ (.into found leads) distinct outside
    rw [List.reverse_cons, List.append_assoc, List.singleton_append] at shown
    exact ⟨part, there, shown⟩
  obtain ⟨part, there, -⟩ := below [] [] value .here List.nodup_nil nofun
  obtain ⟨field, inside, -⟩ := Option.bind_eq_some_iff.mp there
  rw [inside] at below
  exact ⟨field, inside, below⟩

/-- In a heap with its properties in order, there is one unfolding. -/
theorem unfoldsBelow_iff (ordered : heap.Ordered) :
    heap.UnfoldsBelow path root json ↔ json = heap.toJsonBelow path root := by
  constructor
  · intro unfolds
    induction path, root using unfolding_induction heap generalizing json with
    | leaf path value flat =>
        have shown := unfolds.shows
        cases shown with
        | circular => cases flat
        | object => cases flat
        | _ => rw [toJsonBelow]
    | opened path id before =>
        rw [toJsonBelow_object, if_pos before]
        have shown := unfolds.shows
        cases shown with
        | circular => rfl
        | object fresh => exact absurd before fresh
    | object path id fresh children =>
        have shown := unfolds.shows
        cases shown with
        | circular before => exact absurd before fresh
        | @object _ fields _ names =>
            rw [toJsonBelow_object, if_neg fresh]
            congr 1
            have increasing : Fields.Ordered fields := by
              unfold Fields.Ordered
              rw [names]
              exact ordered id
            refine Fields.eq_of_names_of_get? increasing ?_ fun name member => ?_
            · rw [Fields.names_map]
              exact names
            · rw [names] at member
              obtain ⟨value, found⟩ := Fields.exists_get?_of_mem member
              obtain ⟨part, inside, below⟩ := unfolds.field fresh found
              rw [inside, Fields.get?_map, found,
                children (name, value) (Fields.mem_of_get? found) below]
              rfl
  · rintro rfl
    exact unfoldsBelow_toJsonBelow heap path root

/-! ## What a rendering comes to -/

theorem unfolds_iff (ordered : heap.Ordered) :
    heap.Unfolds root json ↔ json = heap.toJson root := by
  refine Iff.trans ?_ (unfoldsBelow_iff ordered)
  have same (passed : List ObjectId) (id : ObjectId) : id ∈ passed ↔ id ∈ passed.reverse ++ [] := by
    simp
  constructor
  · intro unfolds names passed value leads distinct _
    obtain ⟨part, found, shown⟩ := unfolds names passed value leads distinct
    exact ⟨part, found, shown.of_mem_iff (same passed)⟩
  · intro unfolds names passed value leads distinct
    obtain ⟨part, found, shown⟩ := unfolds names passed value leads distinct fun _ _ => nofun
    exact ⟨part, found, shown.of_mem_iff fun id => (same passed id).symm⟩

theorem at?_toJson_iff :
    (heap.toJson root).at? names = some part ↔
      ∃ passed value, heap.Leads root names passed value ∧ passed.Nodup ∧
        part = heap.toJsonBelow passed.reverse value := by
  unfold toJson
  rw [at?_toJsonBelow_iff]
  simp

theorem Leads.snoc {name : String} (leads : heap.Leads root names passed (.object id))
    (found : heap.get? id name = some value) :
    heap.Leads root (names ++ [name]) (passed ++ [id]) value := by
  generalize reached : HostValue.object id = last at leads
  induction leads with
  | here =>
      subst reached
      exact .into found .here
  | into before _ ih => exact .into before (ih reached)

/-- Only an object that was not passed shows as an object, with its names. -/
theorem Shows.names_eq {fields : List (String × Json)}
    (shown : heap.Shows passed value (.object fields)) :
    ∃ id, value = .object id ∧ id ∉ passed ∧ Fields.names fields = heap.names id := by
  generalize shape : Json.object fields = part at shown
  cases shown with
  | object fresh names =>
      cases shape
      exact ⟨_, rfl, fresh, names⟩
  | number =>
      unfold Json.ofFloat at shape
      split at shape <;> cases shape
  | _ => cases shape

/--
Rendering a value of any heap ends with one result and with the stack as it was.  The
result is the unfolding of the value: at every place, as far as no object is passed
twice, it shows the value that is found there.  Its objects have their names in order,
and an object that an object refers to under two names is rendered in full under both.
-/
theorem toJson_unfolds (ordered : heap.Ordered) (root : HostValue) :
    (∀ stack value json after, heap.Renders stack value json after ↔
      json = heap.toJsonBelow stack value ∧ after = stack) ∧
    (∀ json, heap.Unfolds root json ↔ json = heap.toJson root) ∧
    (∀ names part, (heap.toJson root).at? names = some part ↔
      ∃ passed value, heap.Leads root names passed value ∧ passed.Nodup ∧
        part = heap.toJsonBelow passed.reverse value) ∧
    (∀ names fields, (heap.toJson root).at? names = some (.object fields) →
      (Fields.names fields).Pairwise (· < ·)) ∧
    ∀ names passed id child one other, heap.Leads root names passed (.object id) →
      (child :: id :: passed).Nodup →
      heap.get? id one = some (.object child) → heap.get? id other = some (.object child) →
      ∃ fields, (heap.toJson root).at? (names ++ [one]) = some (.object fields) ∧
        (heap.toJson root).at? (names ++ [other]) = some (.object fields) ∧
        Fields.names fields = heap.names child := by
  refine ⟨fun _ _ _ _ => renders_iff, fun _ => unfolds_iff ordered, fun _ _ => at?_toJson_iff,
    ?_, ?_⟩
  · intro names fields found
    obtain ⟨passed, value, -, -, part⟩ := at?_toJson_iff.mp found
    have shown := shows_toJsonBelow heap passed.reverse value
    rw [← part] at shown
    obtain ⟨id, -, -, same⟩ := shown.names_eq
    rw [same]
    exact ordered id
  · intro names passed id child one other leads distinct first second
    obtain ⟨fresh, passing⟩ := List.nodup_cons.mp distinct
    have passing : (passed ++ [id]).Nodup :=
      (List.perm_append_singleton id passed).nodup_iff.mpr passing
    have fresh : child ∉ (passed ++ [id]).reverse := by
      simpa [or_comm] using fresh
    have opened := toJsonBelow_object heap (passed ++ [id]).reverse child
    rw [if_neg fresh] at opened
    exact ⟨_, at?_toJson_iff.mpr ⟨_, _, leads.snoc first, passing, opened.symm⟩,
      at?_toJson_iff.mpr ⟨_, _, leads.snoc second, passing, opened.symm⟩, Fields.names_map _ _⟩

/-- An object that refers twice to another, which refers back to it. -/
def sharing : Heap :=
  ⟨#[[("left", .object 1), ("right", .object 1)], [("back", .object 0), ("call", .function 0)]]⟩

theorem ordered_sharing : sharing.Ordered := by
  intro id
  match id with
  | 0 => exact List.pairwise_pair.mpr (by decide)
  | 1 => exact List.pairwise_pair.mpr (by decide)
  | _ + 2 => exact List.Pairwise.nil

/-- The other object is rendered twice in full, and the way back is cut both times. -/
theorem toJson_unfolds_sharing :
    sharing.Ordered ∧ sharing.Unfolds (.object 0) (.object [
      ("left", .object [("back", .string circular), ("call", .null)]),
      ("right", .object [("back", .string circular), ("call", .null)])]) := by
  refine ⟨ordered_sharing, ((toJson_unfolds ordered_sharing (.object 0)).2.1 _).mpr ?_⟩
  have first : sharing.properties 0 = [("left", .object 1), ("right", .object 1)] := rfl
  have second : sharing.properties 1 = [("back", .object 0), ("call", .function 0)] := rfl
  simp [toJson, toJsonBelow_object, toJsonBelow, first, second]

end Heap

end WasmBridge
