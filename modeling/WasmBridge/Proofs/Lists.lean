import Mathlib.Data.List.Forall2
import Mathlib.Data.List.Nodup
import Mathlib.Data.List.Perm.Basic

/-!
# Places in lists

Contexts and calls are kept in lists that grow at the end and whose members are replaced
where they are.  Lists of handles are read member by member, up to the first that fails.
-/

namespace WasmBridge

variable {α : Type} {list : List α} {place other : Nat} {member last found : α}

/-- A list before and after one of its members was replaced, in another order. -/
theorem perm_set (after : α) (found : list[place]? = some member) :
    list.Perm (member :: list.eraseIdx place) ∧
      (list.set place after).Perm (after :: list.eraseIdx place) := by
  obtain ⟨within, equal⟩ := List.getElem?_eq_some_iff.mp found
  refine ⟨?_, List.set_perm_cons_eraseIdx within after⟩
  rw [← equal]
  exact (List.getElem_cons_eraseIdx_perm within).symm

theorem getElem?_set_cases {after : α} (there : (list.set place after)[other]? = some found) :
    (other = place ∧ found = after) ∨ (other ≠ place ∧ list[other]? = some found) := by
  by_cases same : place = other
  · subst same
    have within := (List.getElem?_eq_some_iff.mp there).1
    rw [List.length_set] at within
    rw [List.getElem?_set_self within] at there
    exact .inl ⟨rfl, (Option.some.inj there).symm⟩
  · rw [List.getElem?_set_ne same] at there
    exact .inr ⟨Ne.symm same, there⟩

theorem getElem?_append_cases (there : (list ++ [last])[place]? = some found) :
    (place = list.length ∧ found = last) ∨ list[place]? = some found := by
  by_cases within : place < list.length
  · rw [List.getElem?_append_left within] at there
    exact .inr there
  · have reached := (List.getElem?_eq_some_iff.mp there).1
    rw [List.length_append, List.length_singleton] at reached
    obtain rfl : place = list.length := by omega
    rw [List.getElem?_concat_length] at there
    exact .inl ⟨rfl, (Option.some.inj there).symm⟩

/-- Where no two members are mapped to the same, a place is known from what its member is
mapped to. -/
theorem eq_of_nodup_filterMap {β : Type} {map : α → Option β} {left right : α} {value : β}
    (distinct : (list.filterMap map).Nodup) (here : list[place]? = some left)
    (there : list[other]? = some right) (first : map left = some value)
    (second : map right = some value) : place = other := by
  have apart := List.pairwise_filterMap.mp distinct
  obtain ⟨within, rfl⟩ := List.getElem?_eq_some_iff.mp here
  obtain ⟨inside, rfl⟩ := List.getElem?_eq_some_iff.mp there
  rcases Nat.lt_trichotomy place other with less | same | more
  · exact absurd rfl (List.pairwise_iff_getElem.mp apart _ _ _ _ less value first value second)
  · exact same
  · exact absurd rfl (List.pairwise_iff_getElem.mp apart _ _ _ _ more value second value first)

theorem nodup_eraseDups [DecidableEq α] (list : List α) : list.eraseDups.Nodup := by
  cases list with
  | nil => exact List.nodup_nil
  | cons first rest =>
      rw [List.eraseDups_cons, List.nodup_cons]
      refine ⟨fun again => ?_, nodup_eraseDups _⟩
      simp at again
termination_by list.length
decreasing_by exact Nat.lt_succ_of_le (List.length_filter_le _ _)

section Reading

variable {β ε : Type} {read : α → Except ε β} {values : List β} {error : ε}

theorem bind_eq_ok_iff {first : Except ε α} {next : α → Except ε β} {result : β} :
    first >>= next = .ok result ↔ ∃ value, first = .ok value ∧ next value = .ok result := by
  cases first with
  | error fault =>
      constructor
      · nofun
      · rintro ⟨value, impossible, -⟩
        cases impossible
  | ok value =>
      constructor
      · exact fun rest => ⟨value, rfl, rest⟩
      · rintro ⟨_, same, rest⟩
        cases same
        exact rest

theorem mapM_eq_ok_iff :
    list.mapM read = .ok values ↔
      List.Forall₂ (fun member value => read member = .ok value) list values := by
  induction list generalizing values with
  | nil =>
      rw [List.forall₂_nil_left_iff, List.mapM_nil]
      exact ⟨fun same => (Except.ok.inj same).symm, fun same => same ▸ rfl⟩
  | cons member rest ih =>
      rw [List.mapM_cons, List.forall₂_cons_left_iff]
      constructor
      · intro succeeds
        cases here : read member with
        | error fault =>
            rw [here] at succeeds
            cases succeeds
        | ok value =>
            rw [here] at succeeds
            cases there : rest.mapM read with
            | error fault =>
                rw [there] at succeeds
                cases succeeds
            | ok later =>
                rw [there] at succeeds
                exact ⟨value, later, rfl, ih.mp there, (Except.ok.inj succeeds).symm⟩
      · rintro ⟨value, later, here, there, rfl⟩
        rw [here, ih.mpr there]
        rfl

theorem isOk_of_mapM (succeeds : list.mapM read = .ok values) :
    ∀ member ∈ list, (read member).isOk := by
  have held := mapM_eq_ok_iff.mp succeeds
  clear succeeds
  induction held with
  | nil => nofun
  | cons here _ ih =>
      intro member among
      rcases List.mem_cons.mp among with rfl | among
      · rw [here]
        rfl
      · exact ih member among

/-- Reading fails as it does for the first member that cannot be read. -/
theorem mapM_eq_error_iff :
    list.mapM read = .error error ↔ ∃ earlier member later,
      list = earlier ++ member :: later ∧ (∀ other ∈ earlier, (read other).isOk) ∧
        read member = .error error := by
  induction list with
  | nil => simp [pure, Except.pure]
  | cons first rest ih =>
      rw [List.mapM_cons]
      cases here : read first with
      | error fault =>
          constructor
          · intro fails
            cases fails
            exact ⟨[], first, rest, rfl, nofun, here⟩
          · rintro ⟨earlier, member, later, split, fine, fails⟩
            cases earlier with
            | nil =>
                cases split
                cases here.symm.trans fails
                rfl
            | cons other earlier =>
                cases split
                have impossible := fine _ List.mem_cons_self
                rw [here] at impossible
                cases impossible
      | ok value =>
          have onward : (do
              let value ← (Except.ok value : Except ε β)
              let values ← rest.mapM read
              pure (value :: values)) = .error error ↔ rest.mapM read = .error error := by
            cases rest.mapM read with
            | error fault => exact Iff.rfl
            | ok values => simp [bind, Except.bind, pure, Except.pure]
          rw [onward, ih]
          constructor
          · rintro ⟨earlier, member, later, rfl, fine, fails⟩
            refine ⟨first :: earlier, member, later, rfl, fun other among => ?_, fails⟩
            rcases List.mem_cons.mp among with rfl | among
            · rw [here]
              rfl
            · exact fine other among
          · rintro ⟨earlier, member, later, split, fine, fails⟩
            cases earlier with
            | nil =>
                cases split
                cases here.symm.trans fails
            | cons other earlier =>
                cases split
                exact ⟨earlier, member, later, rfl,
                  fun other among => fine other (List.mem_cons_of_mem _ among), fails⟩

end Reading

end WasmBridge
