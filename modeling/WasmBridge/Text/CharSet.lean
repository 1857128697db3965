/-!
# Sets of characters

A set of characters is given by the increasing list of the code points at which
membership changes: a character is in the set when an odd number of them are at
or below it.
-/

namespace WasmBridge.Text

/-- The code points at which membership changes, in increasing order. -/
structure CharSet where
  changes : List Nat
deriving DecidableEq

namespace CharSet

/-- Whether a code point is in a set. -/
def containsCode (set : CharSet) (code : Nat) : Bool :=
  (set.changes.takeWhile (· ≤ code)).length % 2 == 1

/-- Membership. -/
def contains (set : CharSet) (char : Char) : Bool :=
  set.containsCode char.toNat

/-- No character. -/
def empty : CharSet := ⟨[]⟩

/-- Every character. -/
def full : CharSet := ⟨[0]⟩

/-- The greatest code point. -/
def lastCode : Nat := 0x10FFFF

/-- The characters from one to another. -/
def range (first last : Char) : CharSet :=
  ⟨first.toNat :: if last.toNat = lastCode then [] else [last.toNat + 1]⟩

/-- One character. -/
def singleton (char : Char) : CharSet :=
  range char char

/-- The only character of a set, if there is just one. -/
def only? (set : CharSet) : Option Char :=
  match set.changes with
  | first :: _ =>
    let char := Char.ofNat first
    if set = singleton char then some char else none
  | [] => none

/-- The characters that are not in a set. -/
def complement (set : CharSet) : CharSet :=
  match set.changes with
  | 0 :: changes => ⟨changes⟩
  | changes => ⟨0 :: changes⟩

/-- Those of some code points at which a truth value changes. -/
def changesOf (holds : Nat → Bool) (before : Bool) : List Nat → List Nat
  | [] => []
  | code :: codes =>
    if holds code = before then changesOf holds before codes
    else code :: changesOf holds (holds code) codes

/-- The characters for which membership in two sets is as an operation says, which
says no for characters in neither. -/
def combine (operation : Bool → Bool → Bool) (first second : CharSet) : CharSet :=
  ⟨changesOf (fun code => operation (first.containsCode code) (second.containsCode code)) false
    (first.changes.merge second.changes)⟩

/-- The characters in either of two sets. -/
def union : CharSet → CharSet → CharSet :=
  combine or

/-- A set with the other case of each of its ASCII letters. -/
def withCases (set : CharSet) : CharSet :=
  (List.range 26).foldl (fun all letter =>
    let upper := Char.ofNat (0x41 + letter)
    let lower := Char.ofNat (0x61 + letter)
    if set.contains upper || set.contains lower then
      (all.union (singleton upper)).union (singleton lower)
    else all) set

/-- A character is in a set or in its complement, and not in both. -/
theorem contains_complement (set : CharSet) (char : Char) :
    set.complement.contains char = !set.contains char := by
  have flip : ∀ size : Nat, ((size + 1) % 2 == 1) = !(size % 2 == 1) := fun size => by
    rcases Nat.mod_two_eq_zero_or_one size with h | h <;> simp [Nat.add_mod, h]
  unfold complement contains containsCode
  split
  · next changes h => rw [h]; simp [flip]
  · next changes h => simp [flip]

/-- A range contains its characters and no others. -/
theorem contains_range (first last char : Char) :
    (range first last).contains char =
      (first.toNat ≤ char.toNat && char.toNat ≤ last.toNat) := by
  have bound : char.toNat ≤ lastCode := by
    have := char.valid
    have : char.toNat = char.val.toNat := rfl
    unfold lastCode
    rcases char.valid with h | h <;> omega
  unfold range contains containsCode
  by_cases low : first.toNat ≤ char.toNat
  · by_cases whole : last.toNat = lastCode
    · simp [low, whole, bound]
    · by_cases high : last.toNat + 1 ≤ char.toNat
      · simp [low, whole, high]; omega
      · simp [low, whole, high]; omega
  · simp [low]

end CharSet

end WasmBridge.Text
