import RecordSql.Name.TableName
import RecordSql.Proofs.Name.Inflection
import RecordSql.Proofs.Unicode.LowerCase

/-!
Cuts of words as they are written. The rules look at the lower case of a word, which may have another
length in bytes, and the cut is made in the word itself. It is always possible: the word ends in the
ASCII letters of which the rule has found the lower case.
-/

namespace RecordSql.Name
open Unicode

/-! Inflection in which a cut that is longer than the word, or that divides a character, has no
result. -/

def Change.applied? (change : Change) (word : List Char) : Option (List Char) :=
  match change with
  | .keep => some word
  | .become other => some other.toList
  | .cut bytes ending => (dropEndBytes? bytes word).map (· ++ ending.toList)

def pluralWord? (word : List Char) : Option (List Char) :=
  (pluralChange (lowerText word)).applied? word

def singularWord? (word : List Char) : Option (List Char) :=
  (singularChange (lowerText word)).applied? word

def inflectLast? (inflect : List Char → Option (List Char)) (text : List Char) :
    Option (List Char) :=
  let (head, last) := splitLastWord text
  if last.isEmpty then inflect text else (inflect last).map (head ++ ·)

def pluralize? (name : String) : Option String :=
  (inflectLast? pluralWord? name.toList).map String.ofList

def singularize? (name : String) : Option String :=
  (inflectLast? singularWord? name.toList).map String.ofList

def tableName? (typeName : String) : Option String := pluralize? (snakeCase typeName)

def foreignKey? (table : String) : Option String := (singularize? table).map (· ++ "_id")

/-- A cut of so many bytes falls between characters, and takes off as many ASCII characters, whose
lower case stands at the end of the lower case of the word. -/
structure CutsCleanly (word : List Char) (bytes : Nat) (stem matched : List Char) : Prop where
  whole : word = stem ++ matched
  fits : bytes ≤ byteLength word
  drops : dropEndBytes? bytes word = some stem
  count : byteLength matched = bytes ∧ matched.length = bytes
  ascii : ∀ c ∈ matched, c.toNat < 128
  lower : matched.map Char.toLower = (lowerText word).drop ((lowerText word).length - bytes)

theorem cutsCleanly_of_suffix (word ending : List Char) (atEnd : ending <:+ lowerText word)
    (own : ∀ d ∈ ending, IsOwnAscii d) :
    ∃ stem matched, CutsCleanly word (byteLength ending) stem matched := by
  obtain ⟨lowered, whole⟩ := atEnd
  obtain ⟨stem, matched, same, ascii, lower⟩ :=
    ending_of_lowerAfter [] word lowered ending whole.symm own
  have endingBytes : byteLength ending = ending.length :=
    byteLength_ascii ending (fun d member => (own d member).1)
  have lengths : matched.length = ending.length := by rw [← lower, List.length_map]
  have matchedBytes : byteLength matched = byteLength ending := by
    rw [byteLength_ascii matched ascii, lengths, endingBytes]
  refine ⟨stem, matched, same, ?_, ?_, ⟨matchedBytes, lengths.trans endingBytes.symm⟩, ascii, ?_⟩
  · rw [same, byteLength_append, matchedBytes]
    exact Nat.le_add_left ..
  · rw [same, ← matchedBytes]
    exact dropEndBytes?_append stem matched
  · rw [← whole, List.length_append, endingBytes, Nat.add_sub_cancel_right, List.drop_left, lower]

section
variable {pairs cuts : List (String × String)} {word : List Char} {change : Change}

theorem Change.Follows.cutsCleanly (follows : change.Follows pairs cuts (lowerText word))
    (own : ∀ rule ∈ cuts, ∀ d ∈ rule.1.toList, IsOwnAscii d) (bytes : Nat) (ending : String)
    (same : change = .cut bytes ending) : ∃ stem matched, CutsCleanly word bytes stem matched := by
  cases follows with
  | keep => contradiction
  | become => contradiction
  | cut matched other count member atEnd counted =>
    cases same
    exact counted ▸ cutsCleanly_of_suffix word matched.toList atEnd (own _ member)

theorem Change.Follows.applied?_eq_some (follows : change.Follows pairs cuts (lowerText word))
    (own : ∀ rule ∈ cuts, ∀ d ∈ rule.1.toList, IsOwnAscii d) :
    change.applied? word = some (change.apply word) := by
  cases change with
  | keep => rfl
  | become other => rfl
  | cut bytes ending =>
    obtain ⟨stem, matched, clean⟩ := follows.cutsCleanly own bytes ending rfl
    rw [Change.applied?, Change.apply, clean.drops]
    rfl

end

theorem pluralCuts_own : ∀ rule ∈ pluralCuts, ∀ d ∈ rule.1.toList, IsOwnAscii d := by
  simp [pluralCuts, IsOwnAscii]

theorem singularCuts_own : ∀ rule ∈ singularCuts, ∀ d ∈ rule.1.toList, IsOwnAscii d := by
  simp [singularCuts, IsOwnAscii]

theorem inflectLast?_eq_some (inflect? : List Char → Option (List Char))
    (inflect : List Char → List Char) (all : ∀ word, inflect? word = some (inflect word))
    (text : List Char) : inflectLast? inflect? text = some (inflectLast inflect text) := by
  simp only [inflectLast?, inflectLast, all]
  split <;> rfl

theorem pluralize?_eq_some (name : String) : pluralize? name = some (pluralize name) := by
  have words (word : List Char) : pluralWord? word = some (pluralWord word) :=
    (pluralChange_follows (lowerText word)).applied?_eq_some pluralCuts_own
  rw [pluralize?, inflectLast?_eq_some pluralWord? pluralWord words]
  rfl

theorem singularize?_eq_some (name : String) : singularize? name = some (singularize name) := by
  have words (word : List Char) : singularWord? word = some (singularWord word) :=
    (singularChange_follows (lowerText word)).applied?_eq_some singularCuts_own
  rw [singularize?, inflectLast?_eq_some singularWord? singularWord words]
  rfl

/-- Whatever a word holds, a cut that a rule asks for takes the letters off it that the rule has
found in its lower case. So plurals, singulars and the names made of them never depend on a cut that
cannot be made. -/
theorem cuts_cleanly :
    (∀ (word : List Char) (bytes : Nat) (ending : String),
      pluralChange (lowerText word) = .cut bytes ending ∨
          singularChange (lowerText word) = .cut bytes ending →
        ∃ stem matched, CutsCleanly word bytes stem matched) ∧
    ∀ name : String, pluralize? name = some (pluralize name) ∧
      singularize? name = some (singularize name) ∧ tableName? name = some (tableName name) ∧
      foreignKey? name = some (foreignKey name) := by
  constructor
  · intro word bytes ending change
    rcases change with plural | singular
    · exact (pluralChange_follows _).cutsCleanly pluralCuts_own bytes ending plural
    · exact (singularChange_follows _).cutsCleanly singularCuts_own bytes ending singular
  · intro name
    refine ⟨pluralize?_eq_some name, singularize?_eq_some name, pluralize?_eq_some _, ?_⟩
    rw [foreignKey?, singularize?_eq_some]
    rfl

/-- A word with two letters whose lower case has another length: the Kelvin sign and `İ`. -/
theorem cuts_cleanly_kelvin :
    byteLength "\u212A\u0130TY".toList ≠ byteLength (lowerText "\u212A\u0130TY".toList) ∧
      pluralChange (lowerText "\u212A\u0130TY".toList) = .cut 1 "ies" ∧
      ∃ stem matched, CutsCleanly "\u212A\u0130TY".toList 1 stem matched := by
  have change : pluralChange (lowerText "\u212A\u0130TY".toList) = .cut 1 "ies" := by
    decide +kernel
  exact ⟨by decide +kernel, change, cuts_cleanly.1 _ 1 "ies" (Or.inl change)⟩

end RecordSql.Name
