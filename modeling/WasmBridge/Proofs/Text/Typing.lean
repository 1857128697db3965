import Mathlib.Data.List.TakeWhile
import WasmBridge.Proofs.Text.Utf8
import WasmBridge.Text.Blank
import WasmBridge.Text.Lowercase

/-!
# Words as they are typed

White space around a word does not count, and neither does the case of its letters.  Of the
characters beyond ASCII only the Kelvin sign has an ASCII character as its lower-case form, so a
text is an ASCII word without `k` in some letter case as soon as its lower-case form is that word.
-/

namespace WasmBridge.Text

variable {char letter : Char} {chars word core before after : List Char} {text : String}

/-! ## White space -/

/-- What is left of a text without the white space at either end. -/
structure Trimmed (text core : String) : Prop where
  around : ∃ before after, text.toList = before ++ core.toList ++ after ∧
    (∀ char ∈ before, isBlank char = true) ∧ ∀ char ∈ after, isBlank char = true
  first : ∀ char ∈ core.toList.head?, isBlank char = false
  last : ∀ char ∈ core.toList.getLast?, isBlank char = false

theorem dropWhile_isBlank_eq_self (solid : ∀ char ∈ chars.head?, isBlank char = false) :
    chars.dropWhile isBlank = chars := by
  cases chars with
  | nil => rfl
  | cons char rest =>
      rw [List.dropWhile_cons, if_neg (Bool.not_eq_true _ ▸ solid char rfl)]

theorem head?_dropWhile_isBlank (chars : List Char) :
    ∀ char ∈ (chars.dropWhile isBlank).head?, isBlank char = false := by
  intro char head
  have stops := List.head?_dropWhile_not isBlank chars
  rw [Option.mem_def.mp head] at stops
  exact stops

theorem trimChars_append (first : ∀ char ∈ core.head?, isBlank char = false)
    (last : ∀ char ∈ core.getLast?, isBlank char = false)
    (blank : ∀ char ∈ before, isBlank char = true)
    (empty : ∀ char ∈ after, isBlank char = true) :
    trimChars (before ++ core ++ after) = core := by
  have behind : ∀ char ∈ after.reverse, isBlank char = true :=
    fun char member => empty char (List.mem_reverse.mp member)
  have back : (core.reverse).dropWhile isBlank = core.reverse :=
    dropWhile_isBlank_eq_self (List.head?_reverse ▸ last)
  unfold trimChars
  rw [List.append_assoc, List.dropWhile_append_of_pos blank]
  cases core with
  | nil => rw [List.nil_append, List.dropWhile_eq_nil_iff.mpr empty]; rfl
  | cons char rest =>
      have solid : ∀ other ∈ (char :: rest ++ after).head?, isBlank other = false := first
      rw [dropWhile_isBlank_eq_self solid, List.reverse_append,
        List.dropWhile_append_of_pos behind, back, List.reverse_reverse]

theorem exists_append_dropWhile (chars : List Char) :
    ∃ before, chars = before ++ chars.dropWhile isBlank ∧ ∀ char ∈ before, isBlank char = true :=
  ⟨chars.takeWhile isBlank, List.takeWhile_append_dropWhile.symm,
    fun _ member => List.mem_takeWhile_imp member⟩

theorem trimmed_trim (text : String) : Trimmed text (trim text) := by
  obtain ⟨before, front, blank⟩ := exists_append_dropWhile text.toList
  obtain ⟨behind, back, empty⟩ := exists_append_dropWhile (text.toList.dropWhile isBlank).reverse
  have core : (trim text).toList = trimChars text.toList := String.toList_ofList
  have middle : text.toList.dropWhile isBlank = (trim text).toList ++ behind.reverse := by
    rw [core, trimChars, ← List.reverse_append, ← back, List.reverse_reverse]
  refine ⟨⟨before, behind.reverse, ?_, blank, fun char member => ?_⟩, fun char head => ?_, ?_⟩
  · rw [List.append_assoc, ← middle]
    exact front
  · exact empty char (List.mem_reverse.mp member)
  · refine head?_dropWhile_isBlank text.toList char ?_
    rw [middle, List.head?_append, Option.mem_def.mp head]
    rfl
  · rw [core, trimChars, List.getLast?_reverse]
    exact head?_dropWhile_isBlank _

theorem trim_eq_iff {core : String} : trim text = core ↔ Trimmed text core := by
  constructor
  · rintro rfl
    exact trimmed_trim text
  · rintro ⟨⟨before, after, parts, blank, empty⟩, first, last⟩
    rw [← String.toList_inj, trim, String.toList_ofList, parts]
    exact trimChars_append first last blank empty

/-! ## Letter case -/

/-- An ASCII character that is the lower-case form of ASCII characters only. -/
def IsPlain (letter : Char) : Prop :=
  letter.toNat < 0x80 ∧ letter ≠ 'k'

instance (letter : Char) : Decidable (IsPlain letter) :=
  inferInstanceAs (Decidable (_ ∧ _))

/-- The lower-case letters of a run are characters, and beyond ASCII unless it is the run of the
Kelvin sign. -/
theorem capitalRuns_target : ∀ run ∈ capitalRuns,
    (0x80 ≤ run.target ∧ (run.target + (run.last - run.first) < 0xD800 ∨
      0xDFFF < run.target ∧ run.target + (run.last - run.first) < 0x110000)) ∨
    run.target = 'k'.toNat ∧ run.first = run.last := by
  decide +kernel

theorem not_isPlain_of_le (large : 0x80 ≤ letter.toNat) : ¬ IsPlain letter :=
  fun plain => Nat.not_lt.mpr large plain.1

theorem not_isPlain_lower {run : CapitalRun} (member : run ∈ capitalRuns) {code : Nat}
    (found : run.lower? code = some letter) : ¬ IsPlain letter := by
  unfold CapitalRun.lower? at found
  split at found
  next within =>
    cases found
    obtain ⟨low, high, -⟩ := within
    rcases capitalRuns_target run member with ⟨large, valid⟩ | ⟨kelvin, only⟩
    · refine not_isPlain_of_le ?_
      have valid : (run.target + (code - run.first)).isValidChar := by
        rcases valid with below | ⟨above, below⟩
        · exact .inl (by omega)
        · exact .inr ⟨by omega, by omega⟩
      rw [Char.toNat, Utf8.toNat_ofNat_of_isValidChar valid]
      omega
    · have same : code - run.first = 0 := by omega
      rw [same, kelvin]
      exact fun plain => plain.2 (by decide)
  next => cases found

/-- Characters beyond ASCII have no plain lower-case form. -/
theorem not_isPlain_lowerChar (large : 0x80 ≤ char.toNat) : ¬ IsPlain (lowerChar char) := by
  unfold lowerChar
  cases found : capitalRuns.findSome? (·.lower? char.toNat) with
  | none => exact not_isPlain_of_le large
  | some letter =>
      obtain ⟨run, member, lower⟩ := List.exists_of_findSome?_eq_some found
      exact not_isPlain_lower member lower

theorem lowercaseAfter_cons_of_lt (ascii : char.toNat < 0x80) :
    lowercaseAfter before (char :: chars) =
      char.toLower :: lowercaseAfter (char :: before) chars := by
  rw [lowercaseAfter, if_pos ascii]
  rfl

theorem exists_mem_lowercaseAfter (large : 0x80 ≤ char.toNat) :
    ∃ letter ∈ lowercaseAfter before (char :: chars), ¬ IsPlain letter := by
  rw [lowercaseAfter, if_neg (Nat.not_lt.mpr large)]
  split
  next => exact ⟨'\u0307', by simp, by decide⟩
  next =>
    split
    next =>
      split
      next => exact ⟨'ς', by simp, by decide⟩
      next => exact ⟨'σ', by simp, by decide⟩
    next => exact ⟨lowerChar char, by simp, not_isPlain_lowerChar large⟩

theorem toLower_eq_self (large : 0x80 ≤ char.toNat) : char.toLower = char := by
  unfold Char.toLower
  rw [dif_neg]
  rintro ⟨-, upper⟩
  have bound : char.toNat ≤ 'Z'.toNat := upper
  exact absurd (Nat.le_trans large bound) (by decide)

/-- A text has a plain word as its lower-case form if it is the word in some letter case. -/
theorem lowercaseAfter_eq_iff (plain : ∀ letter ∈ word, IsPlain letter) :
    lowercaseAfter before chars = word ↔ chars.map Char.toLower = word := by
  induction chars generalizing before word with
  | nil => rfl
  | cons char chars ih =>
      rcases Nat.lt_or_ge char.toNat 0x80 with ascii | large
      · rw [lowercaseAfter_cons_of_lt ascii, List.map_cons]
        cases word with
        | nil => exact ⟨nofun, nofun⟩
        | cons letter word =>
            rw [List.cons.injEq, List.cons.injEq,
              ih fun letter member => plain letter (List.mem_cons_of_mem _ member)]
      · constructor
        · rintro rfl
          obtain ⟨letter, member, other⟩ := exists_mem_lowercaseAfter large
          exact absurd (plain letter member) other
        · rintro rfl
          refine absurd (plain char ?_) (not_isPlain_of_le large)
          rw [List.map_cons, toLower_eq_self large]
          exact List.mem_cons_self

/-- A word of characters that are the lower-case forms of ASCII characters only. -/
def IsPlainWord (word : String) : Prop :=
  ∀ letter ∈ word.toList, IsPlain letter

instance (word : String) : Decidable (IsPlainWord word) :=
  List.decidableBAll _ _

theorem lowercase_eq_iff {word : String} (plain : IsPlainWord word) :
    lowercase text = word ↔ text.toLower = word := by
  have lower : text.toLower.toList = text.toList.map Char.toLower := String.toList_map
  rw [lowercase, ← String.toList_inj, String.toList_ofList, lowercaseAfter_eq_iff plain,
    ← String.toList_inj, lower]

theorem lowercase_mem_iff {words : List String}
    (plain : ∀ word ∈ words, IsPlainWord word) :
    lowercase text ∈ words ↔ text.toLower ∈ words := by
  constructor
  · intro member
    rwa [(lowercase_eq_iff (plain _ member)).mp rfl]
  · intro member
    rwa [(lowercase_eq_iff (plain _ member)).mpr rfl]

end WasmBridge.Text
