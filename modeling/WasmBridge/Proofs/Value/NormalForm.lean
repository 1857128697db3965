import Std.Data.String.ToNat
import WasmBridge.Proofs.Decimal.Finite
import WasmBridge.Proofs.Value.Records
import WasmBridge.Proofs.Value.Unfolding

/-!
# The normal form of JSON

Host values know doubles only, and objects only.  So in the normal form of a JSON value
every number is its double, and every array is the object of its items under their places
and of its length.  A part of a JSON value is reached by steps, names in objects and places
in arrays; the normal form has the normal forms of these parts under the names of the steps,
and nothing else but the lengths of the arrays.
-/

namespace WasmBridge.Json

variable {json part inner : Json} {items : List Json} {fields : Fields Json} {name : String}

/-! ## Normal forms -/

/-- What is under the names of an array's object. -/
def entries (items : List Json) : Fields Json :=
  (items.zipIdx.map fun (item, place) => (toString place, item)) ++
    [("length", .number items.length.toFloat)]

mutual

/-- Numbers as doubles and arrays as objects. -/
def normalForm : Json → Json
  | .null => .null
  | .bool value => .bool value
  | .integer value => .number (floatOfInt value)
  | .number value => .number value
  | .string text => .string text
  | .array items => .ofFields (entries (normalItems items))
  | .object fields => .object (normalFields fields)

/-- The normal forms of an array's items. -/
def normalItems : List Json → List Json
  | [] => []
  | item :: rest => normalForm item :: normalItems rest

/-- The normal forms of an object's fields. -/
def normalFields : Fields Json → Fields Json
  | [] => []
  | (name, field) :: rest => (name, normalForm field) :: normalFields rest

end

theorem normalItems_eq (items : List Json) : normalItems items = items.map normalForm := by
  induction items with
  | nil => rfl
  | cons item rest ih =>
      unfold normalItems
      rw [ih]
      rfl

theorem normalFields_eq (fields : Fields Json) :
    normalFields fields = fields.map fun (name, field) => (name, normalForm field) := by
  induction fields with
  | nil => rfl
  | cons field rest ih =>
      unfold normalFields
      rw [ih]
      rfl

theorem normalForm_number (value : Float) : (number value).normalForm = .number value := by
  rw [normalForm]

theorem normalForm_array (items : List Json) :
    (array items).normalForm = .object (Fields.ofList (entries (items.map normalForm))) := by
  rw [normalForm, normalItems_eq]
  rfl

theorem normalForm_object (fields : Fields Json) :
    (object fields).normalForm =
      .object (fields.map fun (name, field) => (name, normalForm field)) := by
  rw [normalForm, normalFields_eq]

/-! ## The object of an array -/

theorem toString_ne_length (place : Nat) : toString place ≠ "length" := by
  intro same
  have digits := congrArg String.toList same
  have first : 'l' ∈ (toString place).toList := by
    rw [digits]
    decide
  have digit := Nat.isDigit_of_mem_toDigits (by decide) (by decide)
    (@Nat.toList_repr place ▸ first)
  cases digit

theorem mem_entries :
    (name, part) ∈ entries items ↔
      (∃ place : Nat, toString place = name ∧ items[place]? = some part) ∨
        name = "length" ∧ part = .number items.length.toFloat := by
  unfold entries
  rw [List.mem_append, List.mem_singleton, Prod.mk.injEq, List.mem_map]
  refine or_congr_left ⟨?_, ?_⟩
  · rintro ⟨⟨item, place⟩, member, equal⟩
    cases equal
    exact ⟨place, rfl, List.mem_zipIdx_iff_getElem?.mp member⟩
  · rintro ⟨place, rfl, found⟩
    exact ⟨(part, place), List.mem_zipIdx_iff_getElem?.mpr found, rfl⟩

/-- The places of the items and the length have different names. -/
theorem nodup_names_entries (items : List Json) : (Fields.names (entries items)).Nodup := by
  have places : Fields.names (items.zipIdx.map fun (item, place) => (toString place, item)) =
      (List.range items.length).map toString := by
    unfold Fields.names
    rw [List.map_map, List.range_eq_range', ← List.zipIdx_map_snd 0 items, List.map_map]
    rfl
  unfold entries Fields.names at *
  rw [List.map_append, places, List.nodup_append]
  refine ⟨?_, List.pairwise_singleton _ _, ?_⟩
  · refine List.Pairwise.map _ (fun left right different same => ?_) List.nodup_range
    exact different (Nat.repr_injective same)
  · intro place listed last only
    obtain ⟨index, -, rfl⟩ := List.mem_map.mp listed
    rw [List.mem_singleton.mp only]
    exact toString_ne_length index

theorem entries_map {change : Json → Json}
    (number : ∀ value, change (.number value) = .number value) (items : List Json) :
    entries (items.map change) = (entries items).map fun (name, item) => (name, change item) := by
  unfold entries
  rw [List.map_append, List.map_map, List.zipIdx_map, List.map_map, List.length_map, List.map_cons]
  dsimp only
  rw [number]
  rfl

/-- What a JSON value has under names. -/
def fields? : Json → Option (Fields Json)
  | .object fields => some fields
  | .array items => some (Fields.ofList (entries items))
  | _ => none

theorem normalForm_of_fields? (container : json.fields? = some fields) :
    json.normalForm = .object (fields.map fun (name, field) => (name, normalForm field)) := by
  cases json with
  | array items =>
      cases container
      rw [normalForm_array, entries_map normalForm_number, Fields.ofList_map]
  | object fields =>
      cases container
      exact normalForm_object fields
  | _ => cases container

/-- Beyond ten items the order of the names is not that of the places. -/
example : Fields.names (Fields.ofList (entries (List.replicate 11 .null))) =
    ["0", "1", "10", "2", "3", "4", "5", "6", "7", "8", "9", "length"] := by
  rfl

/-- What holds of a JSON value when it holds of all it has under names holds of every JSON
value. -/
theorem fields_induction {motive : Json → Prop}
    (flat : ∀ json, json.fields? = none → motive json)
    (container : ∀ json fields, json.fields? = some fields →
      (∀ field ∈ fields, motive field.2) → motive json) :
    ∀ json, motive json := by
  -- The recursor's motives: of a value, of its items, of its fields, and of one field.
  refine @Json.rec motive (fun items => ∀ item ∈ items, motive item)
    (fun fields => ∀ field ∈ fields, motive field.2) (fun field => motive field.2) ?_ ?_ ?_ ?_ ?_ ?_ ?_ ?_ ?_ ?_ ?_ ?_
  · exact flat _ rfl
  · exact fun _ => flat _ rfl
  · exact fun _ => flat _ rfl
  · exact fun _ => flat _ rfl
  · exact fun _ => flat _ rfl
  · intro items each
    refine container _ _ rfl fun field member => ?_
    rcases mem_entries.mp (Fields.mem_of_mem_ofList member) with ⟨place, -, found⟩ | ⟨-, length⟩
    · exact each _ (List.mem_of_getElem? found)
    · rw [length]
      exact flat _ rfl
  · exact fun fields each => container _ _ rfl each
  · exact nofun
  · exact fun _ _ first rest => List.forall_mem_cons.mpr ⟨first, rest⟩
  · exact nofun
  · exact fun _ _ first rest => List.forall_mem_cons.mpr ⟨first, rest⟩
  · exact fun _ _ here => here

theorem normalForm_normalForm (json : Json) : json.normalForm.normalForm = json.normalForm := by
  induction json using fields_induction with
  | flat json none =>
      cases json with
      | array items => cases none
      | object fields => cases none
      | _ => rfl
  | container json fields some ih =>
      rw [normalForm_of_fields? some, normalForm_object, List.map_map]
      congr 1
      exact List.map_congr_left fun field member => congrArg (Prod.mk field.1) (ih field member)

/-! ## Well-formed values -/

theorem ofFloat_of_finite {value : Float} (finite : Decimal.Finite value) :
    ofFloat value = .number value := by
  obtain ⟨negative, mantissa, exponent, parts⟩ := finite
  unfold ofFloat
  rw [parts]

/-- What a JSON text says: numbers are finite, whole numbers and the lengths of arrays fit
into 64 bits, and the fields of an object are in order, one field a name. -/
inductive WellFormed : Json → Prop where
  | null : WellFormed .null
  | bool {value : Bool} : WellFormed (.bool value)
  | integer {value : Int} (fits : value.natAbs < 2 ^ 64) : WellFormed (.integer value)
  | number {value : Float} (finite : Decimal.Finite value) : WellFormed (.number value)
  | string {text : String} : WellFormed (.string text)
  | array {items : List Json} (fits : items.length < 2 ^ 64)
      (each : ∀ item ∈ items, WellFormed item) : WellFormed (.array items)
  | object {fields : Fields Json} (ordered : Fields.Ordered fields)
      (each : ∀ field ∈ fields, WellFormed field.2) : WellFormed (.object fields)

theorem wellFormed_of_fields? (wellFormed : json.WellFormed)
    (container : json.fields? = some fields) :
    Fields.Ordered fields ∧ ∀ field ∈ fields, field.2.WellFormed := by
  cases wellFormed with
  | @array items fits each =>
      cases container
      refine ⟨Fields.ordered_ofList _, fun field member => ?_⟩
      rcases mem_entries.mp (Fields.mem_of_mem_ofList member) with ⟨place, -, found⟩ | ⟨-, length⟩
      · exact each _ (List.mem_of_getElem? found)
      · rw [length]
        exact .number (Decimal.finite_toFloat fits)
  | object ordered each =>
      cases container
      exact ⟨ordered, each⟩
  | _ => cases container

theorem WellFormed.normalForm (wellFormed : json.WellFormed) : json.normalForm.WellFormed := by
  induction wellFormed with
  | integer fits => exact .number (Decimal.finite_floatOfInt fits)
  | @array items fits each ih =>
      have normal : (Json.array (items.map Json.normalForm)).WellFormed := by
        refine .array (by rwa [List.length_map]) fun item member => ?_
        obtain ⟨before, listed, rfl⟩ := List.mem_map.mp member
        exact ih before listed
      obtain ⟨ordered, each⟩ := wellFormed_of_fields? normal rfl
      rw [normalForm_array]
      exact .object ordered each
  | object ordered each ih =>
      rw [normalForm_object]
      refine .object ?_ ?_
      · unfold Fields.Ordered
        rw [Fields.names_map]
        exact ordered
      · intro field member
        obtain ⟨before, listed, rfl⟩ := List.mem_map.mp member
        exact ih before listed
  | null => exact .null
  | bool => exact .bool
  | number finite => exact .number finite
  | string => exact .string

/-! ## Parts -/

/-- A step into a JSON value. -/
inductive Step where
  | key (name : String)
  | index (place : Nat)

/-- The name of a step, as it is in the normal form. -/
def Step.toName : Step → String
  | .key name => name
  | .index place => toString place

/-- The part a step leads to. -/
def step? : Step → Json → Option Json
  | .key name, .object fields => Fields.get? name fields
  | .index place, .array items => items[place]?
  | _, _ => none

/-- The part a path leads to. -/
def follow? : List Step → Json → Option Json
  | [], json => some json
  | step :: rest, json => (json.step? step).bind (follow? rest)

theorem follow?_cons {step : Step} {rest : List Step} :
    json.follow? (step :: rest) = some part ↔
      ∃ child, json.step? step = some child ∧ child.follow? rest = some part :=
  Option.bind_eq_some_iff

theorem follow?_concat {path : List Step} {step : Step} (found : json.follow? path = some part)
    (stepped : part.step? step = some inner) : json.follow? (path ++ [step]) = some inner := by
  induction path generalizing json with
  | nil =>
      cases found
      exact follow?_cons.mpr ⟨inner, stepped, rfl⟩
  | cons first rest ih =>
      obtain ⟨child, opened, followed⟩ := follow?_cons.mp found
      exact follow?_cons.mpr ⟨child, opened, ih followed⟩

/-- Nothing but null is reached from null. -/
theorem ne_null_of_follow? {path : List Step} (found : json.follow? path = some part)
    (proper : part ≠ .null) : json ≠ .null := by
  rintro rfl
  cases path with
  | nil =>
      cases found
      exact proper rfl
  | cons step rest =>
      obtain ⟨child, stepped, -⟩ := follow?_cons.mp found
      cases step <;> cases stepped

theorem get?_fields?_iff (container : json.fields? = some fields) :
    Fields.get? name fields = some part ↔
      (∃ step : Step, step.toName = name ∧ json.step? step = some part) ∨
        ∃ items, json = .array items ∧ name = "length" ∧ part = .number items.length.toFloat := by
  cases json with
  | array items =>
      cases container
      rw [Fields.get?_ofList_iff (nodup_names_entries items), mem_entries]
      constructor
      · rintro (⟨place, rfl, found⟩ | ⟨rfl, rfl⟩)
        · exact .inl ⟨.index place, rfl, found⟩
        · exact .inr ⟨items, rfl, rfl, rfl⟩
      · rintro (⟨step, rfl, found⟩ | ⟨_, same, rfl, rfl⟩)
        · cases step with
          | key name => cases found
          | index place => exact .inl ⟨place, rfl, found⟩
        · cases same
          exact .inr ⟨rfl, rfl⟩
  | object fields =>
      cases container
      constructor
      · exact fun found => .inl ⟨.key name, rfl, found⟩
      · rintro (⟨step, rfl, found⟩ | ⟨_, same, -⟩)
        · cases step with
          | key name => exact found
          | index place => cases found
        · cases same
  | _ => cases container

theorem fields?_of_step? {step : Step} (found : json.step? step = some part) :
    ∃ fields, json.fields? = some fields := by
  cases json with
  | array items => exact ⟨_, rfl⟩
  | object fields => exact ⟨_, rfl⟩
  | _ => cases step <;> cases found

theorem get?_of_step? {step : Step} (found : json.step? step = some part) :
    ∃ fields, json.fields? = some fields ∧ Fields.get? step.toName fields = some part := by
  obtain ⟨fields, container⟩ := fields?_of_step? found
  exact ⟨fields, container, (get?_fields?_iff container).mpr (.inl ⟨step, rfl, found⟩)⟩

/-- A step into nothing: a key that the object does not have, a place outside the array, or
the way to null. -/
inductive Lacks : Json → Step → Prop where
  | absent {fields : Fields Json} {name : String} (absent : Fields.get? name fields = none) :
      Lacks (.object fields) (.key name)
  | outside {items : List Json} {place : Nat} (outside : items.length ≤ place) :
      Lacks (.array items) (.index place)
  | null {json : Json} {step : Step} (null : json.step? step = some .null) : Lacks json step

/-- Under the name of a step into nothing there is nothing, or null. -/
theorem Lacks.get? {step : Step} (lacks : json.Lacks step) :
    ∃ fields, json.fields? = some fields ∧
      (Fields.get? step.toName fields = none ∨ Fields.get? step.toName fields = some .null) := by
  cases lacks with
  | absent absent => exact ⟨_, rfl, .inl absent⟩
  | null null =>
      obtain ⟨fields, container, found⟩ := get?_of_step? null
      exact ⟨fields, container, .inr found⟩
  | @outside items place outside =>
      refine ⟨_, rfl, .inl ?_⟩
      cases found : Fields.get? (Step.index place).toName (Fields.ofList (entries items)) with
      | none => rfl
      | some part =>
          rw [Fields.get?_ofList_iff (nodup_names_entries items), mem_entries] at found
          rcases found with ⟨other, same, inside⟩ | ⟨length, -⟩
          · obtain rfl : other = place := Nat.repr_injective same
            rw [List.getElem?_eq_none outside] at inside
            cases inside
          · exact absurd length (toString_ne_length place)

theorem field?_normalForm (json : Json) (name : String) :
    json.normalForm.field? name = (json.fields?.bind (Fields.get? name)).map normalForm := by
  cases container : json.fields? with
  | some fields =>
      rw [normalForm_of_fields? container]
      exact Fields.get?_map _ _ _
  | none =>
      cases json with
      | array items => cases container
      | object fields => cases container
      | _ =>
          rw [normalForm]
          rfl

/-- Under a name the normal form has the normal form of the part that a step of this name
leads to, or the length of an array. -/
theorem field?_normalForm_iff :
    json.normalForm.field? name = some inner ↔
      (∃ step part, step.toName = name ∧ json.step? step = some part ∧
        inner = part.normalForm) ∨
      ∃ items, json = .array items ∧ name = "length" ∧ inner = .number items.length.toFloat := by
  rw [field?_normalForm, Option.map_eq_some_iff]
  constructor
  · rintro ⟨part, found, rfl⟩
    obtain ⟨fields, container, found⟩ := Option.bind_eq_some_iff.mp found
    rcases (get?_fields?_iff container).mp found with ⟨step, named, found⟩ | ⟨items, rfl, rfl, rfl⟩
    · exact .inl ⟨step, part, named, found, rfl⟩
    · exact .inr ⟨items, rfl, rfl, normalForm_number _⟩
  · rintro (⟨step, part, named, found, rfl⟩ | ⟨items, rfl, rfl, rfl⟩)
    · obtain ⟨fields, container⟩ := fields?_of_step? found
      refine ⟨part, ?_, rfl⟩
      rw [container]
      exact (get?_fields?_iff container).mpr (.inl ⟨step, named, found⟩)
    · refine ⟨.number items.length.toFloat, ?_, normalForm_number _⟩
      have container : (array items).fields? = some (Fields.ofList (entries items)) := rfl
      exact (get?_fields?_iff container).mpr (.inr ⟨items, rfl, rfl, rfl⟩)

theorem at?_number {value : Float} {names : List String} :
    (number value).at? names = some part ↔ names = [] ∧ part = .number value := by
  cases names with
  | nil =>
      unfold at?
      rw [Option.some.injEq, and_iff_right rfl, eq_comm]
  | cons name names => exact ⟨nofun, nofun⟩

/-- The parts of the normal form are the normal forms of the parts at the paths, and the
lengths of the arrays. -/
theorem at?_normalForm_iff {names : List String} :
    json.normalForm.at? names = some inner ↔
      (∃ path part, path.map Step.toName = names ∧ json.follow? path = some part ∧
        inner = part.normalForm) ∨
      ∃ path items, path.map Step.toName ++ ["length"] = names ∧
        json.follow? path = some (.array items) ∧ inner = .number items.length.toFloat := by
  induction names generalizing json with
  | nil =>
      constructor
      · rintro ⟨⟩
        exact .inl ⟨[], json, rfl, rfl, rfl⟩
      · rintro (⟨path, part, none, found, rfl⟩ | ⟨path, items, none, -⟩)
        · cases List.map_eq_nil_iff.mp none
          cases found
          rfl
        · cases List.append_ne_nil_of_right_ne_nil _ (List.cons_ne_nil _ _) none
  | cons name names ih =>
      unfold at?
      rw [Option.bind_eq_some_iff]
      constructor
      · rintro ⟨child, found, below⟩
        rcases field?_normalForm_iff.mp found with
          ⟨step, part, rfl, stepped, rfl⟩ | ⟨items, rfl, rfl, rfl⟩
        · rcases ih.mp below with
            ⟨path, last, rfl, followed, rfl⟩ | ⟨path, items, rfl, followed, rfl⟩
          · exact .inl ⟨step :: path, last, rfl, follow?_cons.mpr ⟨part, stepped, followed⟩, rfl⟩
          · exact .inr ⟨step :: path, items, rfl, follow?_cons.mpr ⟨part, stepped, followed⟩, rfl⟩
        · obtain ⟨rfl, rfl⟩ := at?_number.mp below
          exact .inr ⟨[], items, rfl, rfl, rfl⟩
      · rintro (⟨path, last, same, followed, rfl⟩ | ⟨path, items, same, followed, rfl⟩)
        · obtain ⟨step, rest, rfl, rfl, rfl⟩ := List.map_eq_cons_iff.mp same
          obtain ⟨part, stepped, followed⟩ := follow?_cons.mp followed
          have found := field?_normalForm_iff.mpr (.inl ⟨step, part, rfl, stepped, rfl⟩)
          exact ⟨_, found, ih.mpr (.inl ⟨rest, last, rfl, followed, rfl⟩)⟩
        · cases path with
          | nil =>
              cases same
              cases followed
              exact ⟨_, field?_normalForm_iff.mpr (.inr ⟨items, rfl, rfl, rfl⟩), rfl⟩
          | cons step rest =>
              cases same
              obtain ⟨part, stepped, followed⟩ := follow?_cons.mp followed
              have found := field?_normalForm_iff.mpr (.inl ⟨step, part, rfl, stepped, rfl⟩)
              exact ⟨_, found, ih.mpr (.inr ⟨rest, items, rfl, followed, rfl⟩)⟩

/-- Two steps from one value differ in their names. -/
theorem eq_of_step? {left right : Step} (found : json.step? left = some part)
    (too : json.step? right = some inner) (same : left.toName = right.toName) : left = right := by
  cases json with
  | array items =>
      cases left with
      | key name => cases found
      | index place =>
          cases right with
          | key name => cases too
          | index other => exact congrArg Step.index (Nat.repr_injective same)
  | object fields =>
      cases left with
      | index place => cases found
      | key name =>
          cases right with
          | index place => cases too
          | key other => exact congrArg Step.key same
  | _ => cases left <;> cases found

/-- No two parts have the same place in the normal form. -/
theorem eq_of_follow? {left right : List Step} (found : json.follow? left = some part)
    (too : json.follow? right = some inner)
    (same : left.map Step.toName = right.map Step.toName) : left = right := by
  induction left generalizing json right with
  | nil => exact (List.map_eq_nil_iff.mp same.symm).symm
  | cons step rest ih =>
      obtain ⟨other, others, rfl, first, tails⟩ := List.map_eq_cons_iff.mp same.symm
      obtain ⟨child, stepped, followed⟩ := follow?_cons.mp found
      obtain ⟨_, again, onwards⟩ := follow?_cons.mp too
      obtain rfl := eq_of_step? again stepped first
      cases stepped.symm.trans again
      exact congrArg (other :: ·) (ih followed onwards tails.symm)

end WasmBridge.Json
