import RecordSql.Name.Change
import Mathlib.Data.List.Infix

/-!
A cut that takes the bytes of an ending off a word takes that ending and nothing else, so it never
divides a character.
-/

namespace RecordSql.Name

theorem byteLength_append (front back : List Char) :
    byteLength (front ++ back) = byteLength front + byteLength back := by
  induction front with
  | nil => simp [byteLength]
  | cons c front ih =>
    simp only [List.cons_append, byteLength, ih]
    omega

theorem byteLength_ascii (text : List Char) (ascii : ∀ c ∈ text, c.toNat < 128) :
    byteLength text = text.length := by
  induction text with
  | nil => rfl
  | cons c text ih =>
    rw [List.forall_mem_cons] at ascii
    have one : c.utf8Size = 1 := by
      rw [Char.utf8Size_eq_one_iff, UInt32.le_iff_toNat_le]
      exact Nat.le_of_lt_succ ascii.1
    rw [byteLength, one, ih ascii.2, List.length_cons, Nat.add_comm]

theorem takeBytes?_append (front back : List Char) :
    takeBytes? (byteLength front) (front ++ back) = some front := by
  induction front with
  | nil => simp [byteLength, takeBytes?]
  | cons c front ih =>
    have positive := c.utf8Size_pos
    obtain ⟨bytes, count⟩ : ∃ bytes, byteLength (c :: front) = bytes + 1 :=
      ⟨byteLength (c :: front) - 1, by simp only [byteLength]; omega⟩
    have rest : bytes + 1 - c.utf8Size = byteLength front := by
      simp only [byteLength] at count
      omega
    have fits : c.utf8Size ≤ bytes + 1 := by
      simp only [byteLength] at count
      omega
    rw [count, List.cons_append, takeBytes?, if_pos fits, rest, ih]
    rfl

theorem dropEndBytes?_append (stem ending : List Char) :
    dropEndBytes? (byteLength ending) (stem ++ ending) = some stem := by
  rw [dropEndBytes?, byteLength_append, if_pos (by omega), Nat.add_sub_cancel_right,
    takeBytes?_append]

theorem apply_cut (stem matched : List Char) (ending : String) :
    (Change.cut (byteLength matched) ending).apply (stem ++ matched) = stem ++ ending.toList := by
  rw [Change.apply, dropEndBytes?_append]
  rfl

theorem apply_cut_zero (word : List Char) (ending : String) :
    (Change.cut 0 ending).apply word = word ++ ending.toList := by
  simpa [byteLength] using apply_cut word [] ending

/-- The characters that a change writes. -/
def Change.written : Change → List Char
  | .keep => []
  | .become other => other.toList
  | .cut _ ending => ending.toList

/-- A change fits a word if it writes lower-case letters only, and what it cuts are lower-case
letters at the end of the word. -/
def Change.Fits (change : Change) (word : List Char) : Prop :=
  change.written.all Char.isLower = true ∧
    ∀ bytes ending, change = .cut bytes ending →
      ∃ matched, matched <:+ word ∧ byteLength matched = bytes ∧ matched.all Char.isLower = true

/-- A change that fits keeps a word, replaces it as a whole, or replaces letters at its end. -/
theorem Change.Fits.apply_cases {change : Change} {word : List Char} (fits : change.Fits word) :
    change.apply word = word ∨ change.apply word = change.written ∨
      ∃ stem matched, word = stem ++ matched ∧ matched.all Char.isLower = true ∧
        change.apply word = stem ++ change.written := by
  obtain ⟨-, atEnd⟩ := fits
  cases change with
  | keep => exact Or.inl rfl
  | become other => exact Or.inr (Or.inl rfl)
  | cut bytes ending =>
    obtain ⟨matched, ⟨stem, same⟩, count, letters⟩ := atEnd bytes ending rfl
    refine Or.inr (Or.inr ⟨stem, matched, same.symm, letters, ?_⟩)
    rw [← same, ← count, apply_cut]
    rfl

/-- A change that writes something leaves no word empty. -/
def Change.Writes (change : Change) : Prop := change = .keep ∨ change.written ≠ []

theorem Change.Writes.apply_ne_nil {change : Change} {word : List Char} (writes : change.Writes)
    (nonempty : word ≠ []) : change.apply word ≠ [] := by
  rcases writes with rfl | written
  · exact nonempty
  · cases change with
    | keep => exact nonempty
    | become other => exact written
    | cut bytes ending => exact fun empty => written (List.append_eq_nil_iff.mp empty).2

theorem Change.Fits.mem_apply {change : Change} {word : List Char} (fits : change.Fits word)
    {c : Char} (member : c ∈ change.apply word) : c ∈ word ∨ c.isLower = true := by
  have letters := List.all_eq_true.mp fits.1
  rcases fits.apply_cases with same | same | ⟨stem, matched, whole, -, same⟩
  · exact Or.inl (same ▸ member)
  · exact Or.inr (letters c (same ▸ member))
  · rw [same, List.mem_append] at member
    rcases member with inStem | inEnding
    · exact Or.inl (whole ▸ List.mem_append_left matched inStem)
    · exact Or.inr (letters c inEnding)

/-! Characters that are mapped to others of the same size. A change may be made before or after. -/

section
variable (f : Char → Char) {text : List Char}

theorem byteLength_map (sizes : ∀ c ∈ text, (f c).utf8Size = c.utf8Size) :
    byteLength (text.map f) = byteLength text := by
  induction text with
  | nil => rfl
  | cons c text ih =>
    rw [List.forall_mem_cons] at sizes
    rw [List.map_cons, byteLength, byteLength, sizes.1, ih sizes.2]

theorem takeBytes?_map (bytes : Nat) (sizes : ∀ c ∈ text, (f c).utf8Size = c.utf8Size) :
    takeBytes? bytes (text.map f) = (takeBytes? bytes text).map (List.map f) := by
  induction text generalizing bytes with
  | nil => cases bytes <;> rfl
  | cons c text ih =>
    rw [List.forall_mem_cons] at sizes
    cases bytes with
    | zero => rfl
    | succ bytes =>
      rw [List.map_cons, takeBytes?, takeBytes?, sizes.1]
      split
      · rw [ih _ sizes.2, Option.map_map, Option.map_map]
        rfl
      · rfl

theorem dropEndBytes?_map (bytes : Nat) (sizes : ∀ c ∈ text, (f c).utf8Size = c.utf8Size) :
    dropEndBytes? bytes (text.map f) = (dropEndBytes? bytes text).map (List.map f) := by
  rw [dropEndBytes?, dropEndBytes?, byteLength_map f sizes]
  split
  · exact takeBytes?_map f _ sizes
  · rfl

theorem Change.apply_map (change : Change) (written : change.written.map f = change.written)
    (sizes : ∀ c ∈ text, (f c).utf8Size = c.utf8Size) :
    change.apply (text.map f) = (change.apply text).map f := by
  cases change with
  | keep => rfl
  | become other => exact written.symm
  | cut bytes ending =>
    have same : ending.toList.map f = ending.toList := written
    rw [Change.apply, Change.apply, dropEndBytes?_map f bytes sizes, List.map_append, same]
    cases dropEndBytes? bytes text <;> rfl

end

/-! Rules for changes. -/

/-- A change by rules: the word is kept, or is one of some pairs and its partner takes its place, or
it has an ending that one of some cuts takes off, and gets another. -/
inductive Change.Follows (pairs cuts : List (String × String)) (word : List Char) : Change → Prop where
  | keep : Follows pairs cuts word .keep
  | become (pair : String × String) (member : pair ∈ pairs) (own : pair.1.toList = word) :
      Follows pairs cuts word (.become pair.2)
  | cut (matched ending : String) (bytes : Nat) (member : (matched, ending) ∈ cuts)
      (atEnd : matched.toList <:+ word) (count : byteLength matched.toList = bytes) :
      Follows pairs cuts word (.cut bytes ending)

namespace Change.Follows
variable {pairs cuts : List (String × String)} {word : List Char} {change : Change}

theorem ite {condition : Bool} {first rest : Change}
    (ifTrue : condition = true → first.Follows pairs cuts word)
    (ifFalse : rest.Follows pairs cuts word) :
    (if condition then first else rest).Follows pairs cuts word := by
  cases condition with
  | true => exact ifTrue rfl
  | false => exact ifFalse

theorem fits (follows : change.Follows pairs cuts word)
    (pairLetters : ∀ pair ∈ pairs, pair.2.toList.all Char.isLower = true)
    (cutLetters : ∀ rule ∈ cuts,
      rule.1.toList.all Char.isLower = true ∧ rule.2.toList.all Char.isLower = true) :
    change.Fits word := by
  cases follows with
  | keep => exact ⟨rfl, fun _ _ same => nomatch same⟩
  | become pair member => exact ⟨pairLetters pair member, fun _ _ same => nomatch same⟩
  | cut matched ending bytes member atEnd count =>
    obtain ⟨matchedLetters, endingLetters⟩ := cutLetters (matched, ending) member
    refine ⟨endingLetters, ?_⟩
    intro other text same
    cases same
    exact ⟨matched.toList, atEnd, count, matchedLetters⟩

theorem writes (follows : change.Follows pairs cuts word)
    (pairsWrite : ∀ pair ∈ pairs, pair.2.toList ≠ [])
    (cutsWrite : ∀ rule ∈ cuts, rule.2.toList ≠ []) : change.Writes := by
  cases follows with
  | keep => exact Or.inl rfl
  | become pair member => exact Or.inr (pairsWrite pair member)
  | cut matched ending bytes member => exact Or.inr (cutsWrite (matched, ending) member)

end Change.Follows

end RecordSql.Name
