/-!
# Nesting

What was read out of a text together with how deep its parts are nested.
-/

namespace WasmBridge.Text.Pattern

/-- Something and how deep its parts are nested. -/
structure Nested (α : Type) where
  value : α
  depth : Nat := 0

namespace Nested

/-- How deep some things are nested side by side: one alone is not nested for that. -/
def depthOf {α : Type} : List (Nested α) → Nat
  | [] => 0
  | [item] => item.depth
  | items => (items.map Nested.depth).foldl max 0 + 1

/-- Something that is nested one deeper. -/
def deeper {α : Type} (item : Nested α) : Nested α :=
  { item with depth := item.depth + 1 }

end Nested

end WasmBridge.Text.Pattern
