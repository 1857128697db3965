import Mathlib.Data.List.Forall2
import Mathlib.Data.List.Induction
import WasmBridge.Proofs.Value.Order

/-!
# Records made field by field

A record of fields that are put one after the other has the last field of every name, in
the order of the names.  Two records that are made in the same way of related values have
related values under the same names.
-/

namespace WasmBridge.Fields

variable {α β : Type} {name : String} {value : α} {fields : Fields α}

/-! ## One field after the other -/

theorem ofList_concat (fields : Fields α) (name : String) (value : α) :
    ofList (fields ++ [(name, value)]) = set name value (ofList fields) := by
  unfold ofList
  rw [List.foldl_append]
  rfl

theorem ordered_ofList (fields : Fields α) : Ordered (ofList fields) := by
  induction fields using List.reverseRecOn with
  | nil => exact List.Pairwise.nil
  | append_singleton fields field ih =>
      rw [ofList_concat]
      exact ordered_set _ ih

theorem mem_of_mem_set {field : String × α} (member : field ∈ set name value fields) :
    field = (name, value) ∨ field ∈ fields := by
  induction fields with
  | nil => exact .inl (List.mem_singleton.mp member)
  | cons other rest ih =>
      unfold set at member
      split at member
      · exact List.mem_cons.mp member
      · split at member
        · exact (List.mem_cons.mp member).imp_right (List.mem_cons_of_mem _)
        · rcases List.mem_cons.mp member with first | later
          · exact .inr (first ▸ List.mem_cons_self)
          · exact (ih later).imp_right (List.mem_cons_of_mem _)

theorem mem_of_mem_ofList {field : String × α} (member : field ∈ ofList fields) :
    field ∈ fields := by
  induction fields using List.reverseRecOn with
  | nil => exact member
  | append_singleton fields last ih =>
      rw [ofList_concat] at member
      rcases mem_of_mem_set member with same | before
      · exact List.mem_append_right _ (List.mem_singleton.mpr same)
      · exact List.mem_append_left _ (ih before)

theorem set_of_greatest (greatest : ∀ other ∈ names fields, other < name) :
    set name value fields = fields ++ [(name, value)] := by
  induction fields with
  | nil => rfl
  | cons field rest ih =>
      have below : field.1 < name := greatest _ List.mem_cons_self
      unfold set
      rw [if_neg (String.lt_asymm below), if_neg (Std.ne_of_lt below).symm,
        ih fun other member => greatest other (List.mem_cons_of_mem _ member)]
      rfl

/-- Fields that are in order already are the record of themselves. -/
theorem ofList_of_ordered (ordered : Ordered fields) : ofList fields = fields := by
  induction fields using List.reverseRecOn with
  | nil => rfl
  | append_singleton fields field ih =>
      unfold Ordered names at ordered
      rw [List.map_append, List.pairwise_append] at ordered
      obtain ⟨before, -, below⟩ := ordered
      rw [ofList_concat, ih before, set_of_greatest]
      exact fun other member => below other member _ List.mem_cons_self

/-! ## Distinct names -/

theorem mem_names_of_mem {field : String × α} (member : field ∈ fields) :
    field.1 ∈ names fields :=
  List.mem_map_of_mem member

/-- Of fields with distinct names every one is found. -/
theorem get?_ofList_iff (distinct : (names fields).Nodup) :
    get? name (ofList fields) = some value ↔ (name, value) ∈ fields := by
  induction fields using List.reverseRecOn with
  | nil => exact ⟨nofun, nofun⟩
  | append_singleton fields field ih =>
      obtain ⟨last, put⟩ := field
      unfold names at distinct
      rw [List.map_append, List.nodup_append] at distinct
      obtain ⟨before, -, apart⟩ := distinct
      rw [ofList_concat, List.mem_append, List.mem_singleton]
      by_cases same : name = last
      · subst same
        rw [get?_set_self, Option.some.injEq, Prod.mk.injEq, and_iff_right rfl]
        constructor
        · exact fun equal => .inr equal.symm
        · rintro (member | equal)
          · exact absurd rfl (apart _ (mem_names_of_mem member) _ List.mem_cons_self)
          · exact equal.symm
      · rw [get?_set_of_ne same, ih before, Prod.mk.injEq]
        exact ⟨.inl, fun here => here.resolve_right fun equal => same equal.1⟩

/-! ## Every value replaced -/

theorem set_map (change : α → β) (name : String) (value : α) (fields : Fields α) :
    ((set name value fields).map fun (name, value) => (name, change value)) =
      set name (change value) (fields.map fun (name, value) => (name, change value)) := by
  induction fields with
  | nil => rfl
  | cons field rest ih =>
      unfold set
      rw [List.map_cons]
      dsimp only
      split
      · rfl
      · split
        · rfl
        · rw [List.map_cons, ih]

theorem ofList_map (change : α → β) (fields : Fields α) :
    ofList (fields.map fun (name, value) => (name, change value)) =
      (ofList fields).map fun (name, value) => (name, change value) := by
  induction fields using List.reverseRecOn with
  | nil => rfl
  | append_singleton fields field ih =>
      rw [List.map_append, List.map_cons, List.map_nil, ofList_concat, ofList_concat, ih, set_map]

/-! ## Related records -/

/-- The same names with related values. -/
def Related (relation : α → β → Prop) (left : Fields α) (right : Fields β) : Prop :=
  List.Forall₂ (fun left right => left.1 = right.1 ∧ relation left.2 right.2) left right

variable {relation : α → β → Prop} {left : Fields α} {right : Fields β} {other : β}

theorem Related.set (related : Related relation left right) (pair : relation value other) :
    Related relation (set name value left) (set name other right) := by
  induction related with
  | nil => exact .cons ⟨rfl, pair⟩ .nil
  | @cons leftField rightField _ _ first rest ih =>
      obtain ⟨other, old⟩ := leftField
      obtain ⟨_, former⟩ := rightField
      obtain ⟨rfl, same⟩ := first
      unfold Fields.set
      split
      · exact .cons ⟨rfl, pair⟩ (.cons ⟨rfl, same⟩ rest)
      · split
        · exact .cons ⟨rfl, pair⟩ rest
        · exact .cons ⟨rfl, same⟩ ih

theorem Related.get? (related : Related relation left right) (name : String) :
    Option.Rel relation (get? name left) (get? name right) := by
  induction related with
  | nil => exact .none
  | cons first rest ih =>
      unfold Fields.get?
      rw [first.1]
      split
      · exact .some first.2
      · exact ih

theorem Related.map_eq {γ : Type} {change : α → γ} {render : β → γ}
    (related : Related relation left right)
    (same : ∀ field ∈ left, ∀ other, relation field.2 other → render other = change field.2) :
    (right.map fun (name, value) => (name, render value)) =
      left.map fun (name, value) => (name, change value) := by
  induction related with
  | nil => rfl
  | cons first rest ih =>
      have pair := same _ List.mem_cons_self _ first.2
      rw [List.map_cons, List.map_cons,
        ih fun field member => same field (List.mem_cons_of_mem _ member)]
      dsimp only
      rw [pair, first.1]

end WasmBridge.Fields
