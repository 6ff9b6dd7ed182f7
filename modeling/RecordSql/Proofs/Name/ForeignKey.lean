import RecordSql.Proofs.Name.RoundTrip
import RecordSql.Proofs.Name.TableName

/-!
Which names come back from their plural, and which columns are therefore named after the type that
they refer to. It depends on the last word of the name alone.
-/

namespace RecordSql.Name
open Unicode

/-- The word of a name after its last underscore. -/
def lastWord (name : String) : List Char := (splitLastWord name.toList).2

theorem pluralChange_underscore {word : List Char} (ends : endsInOneOf word ["_"] = true) :
    pluralChange word = .cut 0 "s" := by
  have single : ∀ words : List String, (∀ other ∈ words, endsInOneOf other.toList ["_"] = false) →
      isOneOf word words = false := fun words apart => isOneOf_apart ends apart
  unfold pluralChange
  refine ite_skip ?_ ?_
  · rw [single _ (by decide), Bool.or_false, List.isEmpty_eq_false_iff]
    intro same
    subst same
    exact absurd ends (by decide)
  rw [(partner?_eq_none_iff word irregularPlurals).mpr (single _ (by decide))]
  refine ite_skip (single _ (by decide)) (ite_skip (single _ (by decide)) ?_)
  refine ite_skip (endsInOneOf_apart _ ends (by decide)) ?_
  refine ite_skip (by rw [endsInOneOf_apart _ ends (by decide)]; rfl) ?_
  refine ite_skip (endsInOneOf_apart _ ends (by decide)) ?_
  refine ite_skip (endsInOneOf_apart _ ends (by decide)) ?_
  refine ite_skip (by rw [endsInOneOf_apart _ ends (by decide)]; rfl) ?_
  refine ite_skip (single _ (by decide)) (ite_skip (endsInOneOf_apart _ ends (by decide)) ?_)
  exact ite_skip (single _ (by decide)) rfl

theorem inflectLast_append (inflect : List Char → List Char) (head word : List Char)
    (single : '_' ∉ word) (nonempty : word ≠ [])
    (start : head = [] ∨ ∃ front, head = front ++ ['_']) :
    inflectLast inflect (head ++ word) = head ++ inflect word := by
  have split : splitLastWord (head ++ word) = (head, word) := by
    rcases start with rfl | ⟨front, rfl⟩
    · exact splitLastWord_word word single
    · rw [List.append_assoc]
      exact splitLastWord_head front word single
  have some : word.isEmpty = false := List.isEmpty_eq_false_iff.mpr nonempty
  simp only [inflectLast, split, some, Bool.false_eq_true, if_false]

/-- A word of a name in snake case. -/
structure IsWord (word : List Char) : Prop where
  lowered : ∀ c ∈ word, IsLowered c
  single : '_' ∉ word
  nonempty : word ≠ []

theorem IsWord.plural {word : List Char} (isWord : IsWord word) :
    IsWord ((pluralChange word).apply word) := by
  have fits := pluralChange_fits word
  exact
    { lowered := fun c member =>
        (fits.mem_apply member).elim (isWord.lowered c) (isLowered_of_isLower c)
      single := fun member => (fits.mem_apply member).elim isWord.single (by decide)
      nonempty := (pluralChange_writes word).apply_ne_nil isWord.nonempty }

theorem pluralText_append (head : List Char) {word : List Char} (isWord : IsWord word)
    (start : head = [] ∨ ∃ front, head = front ++ ['_']) :
    pluralText (head ++ word) = head ++ (pluralChange word).apply word := by
  rw [pluralText, inflectLast_append _ _ _ isWord.single isWord.nonempty start, pluralWord,
    lowerText_lowered word isWord.lowered]

theorem singularText_append (head : List Char) {word : List Char} (isWord : IsWord word)
    (start : head = [] ∨ ∃ front, head = front ++ ['_']) :
    singularText (head ++ word) = head ++ (singularChange word).apply word := by
  rw [singularText, inflectLast_append _ _ _ isWord.single isWord.nonempty start, singularWord,
    lowerText_lowered word isWord.lowered]

/-- A name without a last word is empty, or takes an `s` of its own after its last underscore. -/
theorem pluralText_of_empty (text : List Char) (lowered : ∀ c ∈ text, IsLowered c)
    (empty : (splitLastWord text).2 = []) :
    text = [] ∨ ∃ front, text = front ++ ['_'] ∧ pluralText text = front ++ ['_'] ++ "s".toList := by
  have whole := splitLastWord_append text
  rw [empty, List.append_nil] at whole
  rcases (splitLastWord_cases text).2 with none | ⟨front, same⟩
  · exact Or.inl (whole.symm.trans none)
  · have underscored : text = front ++ ['_'] := whole.symm.trans same
    have ends : endsInOneOf text ["_"] = true :=
      (endsInOneOf_iff text _).mpr ⟨"_", List.mem_singleton.mpr rfl, front, underscored.symm⟩
    refine Or.inr ⟨front, underscored, ?_⟩
    simp only [pluralText, inflectLast, empty, List.isEmpty_nil, if_true, pluralWord,
      lowerText_lowered text lowered]
    rw [pluralChange_underscore ends, apply_cut_zero, ← underscored]

theorem isWord_s : IsWord "s".toList where
  lowered := (isSnake_of_isLower "s".toList (by decide)).lowered
  single := by decide
  nonempty := by decide

/-- A name that ends in an underscore takes an `s` of its own, which is dropped again. -/
theorem singularText_pluralText_underscore (text : List Char)
    (lowered : ∀ c ∈ text, IsLowered c) (empty : (splitLastWord text).2 = []) :
    singularText (pluralText text) = text := by
  rcases pluralText_of_empty text lowered empty with rfl | ⟨front, underscored, plural⟩
  · decide
  · have back : (singularChange "s".toList).apply "s".toList = [] := by decide
    rw [plural, singularText_append _ isWord_s (Or.inr ⟨front, rfl⟩), back, List.append_nil,
      underscored]

/-- The parts of a name that has a last word. -/
theorem exists_lastWord (text : List Char) (lowered : ∀ c ∈ text, IsLowered c)
    (nonempty : (splitLastWord text).2 ≠ []) :
    ∃ head last, text = head ++ last ∧ (splitLastWord text).2 = last ∧ IsWord last ∧
      (head = [] ∨ ∃ front, head = front ++ ['_']) := by
  have whole := splitLastWord_append text
  obtain ⟨single, start⟩ := splitLastWord_cases text
  refine ⟨_, _, whole.symm, rfl, ⟨?_, single, nonempty⟩, start⟩
  exact fun c member => lowered c (whole ▸ List.mem_append_right _ member)

/-- A name that is its own singular comes back from its plural unless its last word is misread. -/
theorem singularText_pluralText_iff (text : List Char) (lowered : ∀ c ∈ text, IsLowered c)
    (singular : singularText text = text) :
    singularText (pluralText text) = text ↔ isMisread (splitLastWord text).2 = false := by
  by_cases empty : (splitLastWord text).2 = []
  · rw [empty]
    exact iff_of_true (singularText_pluralText_underscore text lowered empty) (by decide)
  obtain ⟨head, last, rfl, same, isWord, start⟩ := exists_lastWord text lowered empty
  have known : (singularChange last).apply last = last := by
    rw [singularText_append head isWord start] at singular
    exact List.append_cancel_left singular
  rw [same, pluralText_append head isWord start, singularText_append head isWord.plural start,
    List.append_cancel_left_eq]
  exact restored_pluralChange last known

theorem singularize_pluralize_iff (typeName : String)
    (singular : singularize (snakeCase typeName) = snakeCase typeName) :
    singularize (pluralize (snakeCase typeName)) = snakeCase typeName ↔
      isMisread (lastWord (snakeCase typeName)) = false := by
  have lowered := (isSnake_snakeText typeName.toList).lowered
  rw [← String.toList_inj] at singular ⊢
  simp only [singularize, pluralize, snakeCase, lastWord, String.toList_ofList] at singular ⊢
  exact singularText_pluralText_iff _ lowered singular

/-- The usual column for a type that is its own singular. -/
theorem foreignKey_tableName_iff (typeName : String)
    (singular : singularize (snakeCase typeName) = snakeCase typeName) :
    foreignKey (tableName typeName) = snakeCase typeName ++ "_id" ↔
      isMisread (lastWord (snakeCase typeName)) = false := by
  rw [← singularize_pluralize_iff typeName singular, foreignKey, tableName, ← String.toList_inj,
    String.toList_append, String.toList_append, List.append_cancel_right_eq, String.toList_inj]

/-- A type name that is its own singular, and whose plural is read as the plural of it. -/
structure ComesBack (typeName : String) : Prop where
  singular : singularize (snakeCase typeName) = snakeCase typeName
  read : isMisread (lastWord (snakeCase typeName)) = false

theorem ComesBack.singularize_tableName {typeName : String} (back : ComesBack typeName) :
    singularize (tableName typeName) = snakeCase typeName :=
  (singularize_pluralize_iff typeName back.singular).mpr back.read

/-- The usual columns for two tables are the same exactly if the tables have one singular. -/
theorem foreignKey_eq_iff (table other : String) :
    foreignKey table = foreignKey other ↔ singularize table = singularize other := by
  rw [foreignKey, foreignKey, ← String.toList_inj, String.toList_append, String.toList_append,
    List.append_cancel_right_eq, String.toList_inj]

theorem foreignKey_ne {name : String} (other : ¬"_id".toList <:+ name.toList) (table : String) :
    foreignKey table ≠ name := by
  rintro rfl
  rw [foreignKey, String.toList_append] at other
  exact other (List.suffix_append ..)

end RecordSql.Name
