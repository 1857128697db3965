/-!
# Fields ordered by name

A record of any shape is a list of named fields in the increasing order of their
names, one field a name.  JSON objects, the properties of host objects and the
catalog of libraries are such records.
-/

namespace WasmBridge

/-- Named fields in the order of their names. -/
abbrev Fields (α : Type) := List (String × α)

namespace Fields

variable {α : Type}

/-- Put a field in its place, instead of the one of its name if there is one. -/
def set (name : String) (value : α) : Fields α → Fields α
  | [] => [(name, value)]
  | (other, old) :: rest =>
    if name < other then (name, value) :: (other, old) :: rest
    else if name = other then (name, value) :: rest
    else (other, old) :: set name value rest

/-- The field of a name. -/
def get? (name : String) : Fields α → Option α
  | [] => none
  | (other, value) :: rest => if name = other then some value else get? name rest

/-- The other fields. -/
def remove (name : String) : Fields α → Fields α
  | [] => []
  | (other, value) :: rest =>
    if name = other then rest else (other, value) :: remove name rest

/-- The names in increasing order. -/
def names (fields : Fields α) : List String :=
  fields.map Prod.fst

/-- The record of fields in any order; the last one of a name counts. -/
def ofList (fields : List (String × α)) : Fields α :=
  fields.foldl (fun done (name, value) => set name value done) []

/-- A field that was put is found. -/
theorem get?_set_self (name : String) (value : α) (fields : Fields α) :
    get? name (set name value fields) = some value := by
  induction fields with
  | nil => simp [set, get?]
  | cons field rest ih =>
    unfold set
    split
    · simp [get?]
    · split
      · simp [get?]
      · rename_i different
        simp [get?, different, ih]

/-- Putting a field leaves the others alone. -/
theorem get?_set_of_ne {name other : String} (different : other ≠ name) (value : α)
    (fields : Fields α) : get? other (set name value fields) = get? other fields := by
  induction fields with
  | nil => simp [set, get?, different]
  | cons field rest ih =>
    unfold set
    split
    · simp [get?, different]
    · split
      · rename_i same
        simp [get?, ← same, different]
      · simp [get?, ih]

end Fields

end WasmBridge
