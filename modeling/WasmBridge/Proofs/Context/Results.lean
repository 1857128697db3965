import Mathlib.Data.List.Forall2
import WasmBridge.Context.Startup
import WasmBridge.Proofs.Context.Room

/-!
# What exported functions answer

What is exported as a function is found as one of the same type, and what it answers has the
types of its results.
-/

namespace WasmBridge

open Activity

/-- A value of a type: a word, or the zero of another type than that of words. -/
inductive Wasm.ValueType.Admits : Wasm.ValueType → Wasm.Value → Prop where
  | word (word : UInt32) : Admits .i32 (.word word)
  | initial {type : Wasm.ValueType} (other : type ≠ .i32) : Admits type (.initial type)

theorem Wasm.ValueType.admits_initial (type : Wasm.ValueType) : type.Admits (.initial type) := by
  by_cases word : type = .i32
  · subst word
    exact .word 0
  · exact .initial word

/-- There is one value of the type of words, and it is a word. -/
theorem Wasm.ValueType.exists_word_of_admits {values : List Wasm.Value}
    (admits : List.Forall₂ Admits [.i32] values) : ∃ word, values = [.word word] := by
  obtain ⟨value, rest, first, last, rfl⟩ := List.forall₂_cons_left_iff.mp admits
  rw [List.forall₂_nil_left_iff] at last
  subst last
  cases first with
  | word word => exact ⟨word, rfl⟩
  | initial other => exact absurd rfl other

namespace Wasm.Module

variable {module : Module} {name : String} {type : FunctionType}

/-- A function that is exported is the one that is called under its name. -/
theorem exists_function_of_exportedFunction?
    (exported : module.exportedFunction? name = some type) :
    ∃ function, module.function? (.exported name) = some function ∧ function.type = type := by
  unfold exportedFunction? at exported
  split at exported
  next found =>
    cases exported
    obtain ⟨item, first, asked⟩ := Option.map_eq_some_iff.mp found
    unfold exports at first
    rw [List.find?_append, Option.or_eq_some_iff] at first
    rcases first with other | ⟨-, last⟩
    · have member := List.mem_of_find?_eq_some other
      simp only [List.mem_append, List.mem_filterMap, List.mem_map, Option.map_eq_some_iff]
        at member
      rcases member with (⟨_, _, _, _, rfl⟩ | ⟨_, _, rfl⟩) | ⟨_, _, rfl⟩ <;> cases asked
    · rw [List.find?_map, List.find?_filter] at last
      obtain ⟨function, called, rfl⟩ := Option.map_eq_some_iff.mp last
      cases asked
      simp only [Function.comp_def, Bool.decide_and, Bool.decide_coe] at called
      exact ⟨function, called, rfl⟩
  next => cases exported

end Wasm.Module

namespace Guest

variable {module : Wasm.Module} {again : Reentry} {others : Shared → Shared → Prop}
  {args values : List Wasm.Value} {before after : Moment}

/-- Answers have the types that are asked for. -/
theorem admits_of_answers {types : List Wasm.ValueType} {exprs : List Wasm.Expr}
    (ends : (answers module again args types exprs).run.EndsAmid others before (.ok values) after) :
    List.Forall₂ Wasm.ValueType.Admits types values := by
  induction types generalizing exprs before after values with
  | nil =>
      rw [answers] at ends
      obtain ⟨same, -⟩ := endsAmid_pure_iff.mp ends
      cases same
      exact .nil
  | cons type types ih =>
      cases exprs with
      | nil =>
          rw [answers] at ends
          rcases endsAmid_run_bind_iff.mp ends with ⟨_, _, failed⟩ | ⟨rest, _, later, last⟩
          · cases failed
          · obtain ⟨same, -⟩ := endsAmid_pure_iff.mp last
            cases same
            exact .cons type.admits_initial (ih later)
      | cons expr exprs =>
          rw [answers] at ends
          rcases endsAmid_run_bind_iff.mp ends with ⟨_, _, failed⟩ | ⟨word, middle, _, ends⟩
          · cases failed
          rcases endsAmid_run_bind_iff.mp ends with ⟨_, _, failed⟩ | ⟨rest, _, later, last⟩
          · cases failed
          · obtain ⟨same, -⟩ := endsAmid_pure_iff.mp last
            cases same
            refine .cons ?_ (ih later)
            split
            next same => exact same ▸ .word word
            next other => exact .initial other

/-- What an exported function answers has the types of its results. -/
theorem admits_of_call {name : String} {type : Wasm.FunctionType}
    (exported : module.exportedFunction? name = some type)
    (ends : (call module again args (.exported name)).run.EndsAmid others before (.ok values)
      after) :
    List.Forall₂ Wasm.ValueType.Admits type.results values := by
  obtain ⟨function, found, rfl⟩ := Wasm.Module.exists_function_of_exportedFunction? exported
  rw [call, found] at ends
  rcases endsAmid_run_bind_iff.mp ends with ⟨_, _, failed⟩ | ⟨_, _, _, answered⟩
  · cases failed
  · exact admits_of_answers answered

end Guest

end WasmBridge
