import RecordSql.Proofs.Name.TableName
import RecordSql.Proofs.Table.Column

/-!
Names of letters, digits and underscores. The names of tables and keys that are made of them are of
the same kind.
-/

namespace RecordSql.Name
open Unicode

theorem code_of_isNameChar (c : Char) (inName : isNameChar c = true) : c.toNat < 128 := by
  have code : c.toNat = c.val.toNat := rfl
  have upper : 'Z'.val.toNat = 90 := rfl
  have lower : 'z'.val.toNat = 122 := rfl
  have digit : '9'.val.toNat = 57 := rfl
  change ((decide ('A'.val ≤ c.val ∧ c.val ≤ 'Z'.val) ||
    (decide ('a'.val ≤ c.val) && decide (c.val ≤ 'z'.val)) ||
    (decide ('0'.val ≤ c.val) && decide (c.val ≤ '9'.val))) || c == '_') = true at inName
  simp only [Bool.or_eq_true, Bool.and_eq_true, decide_eq_true_eq, beq_iff_eq,
    UInt32.le_iff_toNat_le] at inName
  rcases inName with range | rfl
  · omega
  · decide

theorem isNameChar_of_isLower (c : Char) (letter : c.isLower = true) : isNameChar c = true := by
  change (c.isUpper || c.isLower || c.isDigit || c == '_') = true
  rw [letter, Bool.or_true, Bool.true_or, Bool.true_or]

theorem isNameChar_toLower (c : Char) (inName : isNameChar c = true) :
    isNameChar c.toLower = true := by
  have all := of_ascii (fun c => isNameChar c = true → isNameChar c.toLower = true) (by decide)
  exact all c (code_of_isNameChar c inName) inName

/-! Words of a name. -/

theorem lowerText_word (text : List Char) (plain : text.all isNameChar = true) (word : List Char)
    (inWords : word ∈ words text) : lowerText word = word.map Char.toLower := by
  have ascii : ∀ c ∈ text, c.toNat < 128 :=
    fun c member => code_of_isNameChar c (List.all_eq_true.mp plain c member)
  exact lowerText_ascii_word text ascii word inWords

theorem isNameChar_snakeText (text : List Char) (plain : text.all isNameChar = true) :
    (snakeText text).all isNameChar = true := by
  rw [List.all_eq_true]
  intro c member
  rcases mem_intercalate _ _ member with underscore | ⟨lowered, inWords, inWord⟩
  · rw [List.mem_singleton.mp underscore]
    decide
  · obtain ⟨word, found, rfl⟩ := List.mem_map.mp inWords
    rw [lowerText_word text plain word found] at inWord
    obtain ⟨d, inSource, rfl⟩ := List.mem_map.mp inWord
    exact isNameChar_toLower d (List.all_eq_true.mp plain d (mem_words text word found d inSource))

theorem splitWords_nonempty (text : List Cluster) (nonempty : text ≠ []) :
    (splitWords text).1 ≠ [] ∨ (splitWords text).2 ≠ [] := by
  cases text with
  | nil => contradiction
  | cons cluster text =>
    simp only [splitWords]
    split
    · exact Or.inr (List.cons_ne_nil _ _)
    · split
      · exact Or.inl (List.cons_ne_nil _ _)
      · exact Or.inl (List.cons_ne_nil _ _)

theorem snakeText_ne_nil (text : List Char) (plain : text.all isNameChar = true)
    (nonempty : text ≠ []) : snakeText text ≠ [] := by
  have some : clusters text ≠ [] := by
    intro none
    have whole := clusters_text text
    rw [none] at whole
    exact nonempty whole.symm
  have first := lowerText_word text plain (splitWords (clusters text)).1 (List.mem_cons_self ..)
  intro empty
  unfold snakeText words at empty
  simp only [List.map_cons, first] at empty
  cases rest : (splitWords (clusters text)).2 with
  | nil =>
    rw [rest, List.map_nil, List.intercalate_singleton, List.map_eq_nil_iff] at empty
    exact (splitWords_nonempty _ some).elim (fun head => head empty) (fun tail => tail rest)
  | cons next others =>
    rw [rest, List.map_cons, List.intercalate_cons_cons] at empty
    simp at empty

/-! Plural and singular. -/

theorem mem_inflectLast (choose : List Char → Change) (fits : ∀ word, (choose word).Fits word)
    (text : List Char) (lowered : ∀ c ∈ text, IsLowered c) (c : Char)
    (member : c ∈ inflectLast (fun word => (choose (lowerText word)).apply word) text) :
    c ∈ text ∨ c.isLower = true := by
  have whole := splitLastWord_append text
  simp only [inflectLast] at member
  split at member
  · rw [lowerText_lowered text lowered] at member
    exact (fits text).mem_apply member
  · have inside : ∀ d ∈ (splitLastWord text).2, d ∈ text :=
      fun d inLast => whole ▸ List.mem_append_right _ inLast
    rw [lowerText_lowered _ (fun d inLast => lowered d (inside d inLast))] at member
    rcases List.mem_append.mp member with inHead | inLast
    · exact Or.inl (whole ▸ List.mem_append_left _ inHead)
    · exact ((fits _).mem_apply inLast).imp_left (inside c)

theorem isNameChar_inflectLast (choose : List Char → Change)
    (fits : ∀ word, (choose word).Fits word) (text : List Char)
    (lowered : ∀ c ∈ text, IsLowered c) (plain : text.all isNameChar = true) :
    (inflectLast (fun word => (choose (lowerText word)).apply word) text).all isNameChar = true := by
  rw [List.all_eq_true] at plain ⊢
  intro c member
  exact (mem_inflectLast choose fits text lowered c member).elim (plain c) (isNameChar_of_isLower c)

theorem pluralText_ne_nil (text : List Char) (nonempty : text ≠ []) : pluralText text ≠ [] := by
  have writes : ∀ word, word ≠ [] → pluralWord word ≠ [] := by
    intro word some
    have kept := pluralChange_writes (lowerText word)
    exact kept.apply_ne_nil some
  simp only [pluralText, inflectLast]
  split
  · exact writes text nonempty
  · next some =>
    intro empty
    exact writes _ (fun none => some (List.isEmpty_iff.mpr none)) (List.append_eq_nil_iff.mp empty).2

theorem isPlain_tableName (typeName : String) (plain : IsPlain typeName) :
    IsPlain (tableName typeName) := by
  have snake := isSnake_snakeText typeName.toList
  refine ⟨?_, ?_⟩
  · intro empty
    have text := toList_tableName typeName
    rw [empty] at text
    exact pluralText_ne_nil _ (snakeText_ne_nil _ plain.2 plain.toList_ne_nil) text.symm
  · rw [toList_tableName]
    exact isNameChar_inflectLast pluralChange pluralChange_fits _ snake.lowered
      (isNameChar_snakeText _ plain.2)

theorem isNameChar_singularize (typeName : String) (plain : IsPlain typeName) :
    (singularize (tableName typeName)).toList.all isNameChar = true := by
  have snake := isSnake_pluralText _ (isSnake_snakeText typeName.toList)
  have table := (isPlain_tableName typeName plain).2
  rw [toList_tableName] at table
  rw [singularize, String.toList_ofList, toList_tableName]
  exact isNameChar_inflectLast singularChange singularChange_fits _ snake.lowered table

theorem isPlain_append (front : String) {back : String} (inFront : front.toList.all isNameChar = true)
    (inBack : IsPlain back) : IsPlain (front ++ back) := by
  refine ⟨fun empty => inBack.1 (String.append_eq_empty_iff.mp empty).2, ?_⟩
  rw [String.toList_append, List.all_append, inFront, inBack.2]
  rfl

theorem isPlain_foreignKey (typeName : String) (plain : IsPlain typeName) :
    IsPlain (foreignKey (tableName typeName)) :=
  isPlain_append _ (isNameChar_singularize typeName plain) (by decide)

end RecordSql.Name
