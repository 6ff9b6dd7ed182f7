import RecordSql.Proofs.Name.ForeignKey

/-!
Plurals of plurals. A plural in `-s` is kept, like any word in `-s` that no rule names; but some
words have a plural in one of the endings of singulars in `-s`, and it takes a plural of its own.
-/

namespace RecordSql.Name
open Unicode

/-- Endings of words with a plural in `-us`, in `-is` or in an ending of singulars like `alias`. -/
def twiceEndings : List String := ["alia", "ga", "tla", "tma", "u", "i"]

/-- Whether the plural of a word is taken for a singular. -/
def isPluralizedTwice (word : List Char) : Bool :=
  endsInOneOf word twiceEndings && word != "i".toList

/-- The plural that a change makes of a word is its own plural, unless the word is pluralized
twice. -/
def Settled (word : List Char) (change : Change) : Prop :=
  (pluralChange (change.apply word)).apply (change.apply word) = change.apply word ↔
    isPluralizedTwice word = false

instance (word : List Char) (change : Change) : Decidable (Settled word change) :=
  inferInstanceAs (Decidable (_ ↔ _))

theorem Settled.ite {condition : Bool} {first rest : Change} {word : List Char}
    (ifTrue : condition = true → Settled word first)
    (ifFalse : condition = false → Settled word rest) :
    Settled word (if condition then first else rest) := by
  cases condition with
  | true => exact ifTrue rfl
  | false => exact ifFalse rfl

/-! The plural of words in `-s`. -/

/-- How a word in `-s` turns into its plural, by the text before that ending. -/
theorem pluralChange_s (stem : List Char) :
    pluralChange (stem ++ "s".toList) =
      if endsInOneOf stem ["alia", "ga", "tla", "tma", "ri"] then .cut 0 "es"
      else if endsInOneOf stem ["i"] && stem != "i".toList then .cut 2 "es"
      else if endsInOneOf stem ["u", "s"] then .cut 0 "es"
      else .keep := by
  cases listed : isOneOf stem (["new", "serie", "specie"] ++ ["person"]) with
  | true =>
    obtain ⟨known, member, rfl⟩ := (isOneOf_iff _ _).mp listed
    clear listed
    revert known
    decide
  | false =>
    rw [isOneOf_append_list, Bool.or_eq_false_iff] at listed
    have longer : (stem ++ "s".toList != "is".toList) = (stem != "i".toList) := by
      rw [Bool.eq_iff_iff, bne_iff_ne, bne_iff_ne]
      have whole : stem ++ "s".toList = "i".toList ++ "s".toList ↔ stem = "i".toList :=
        List.append_left_inj _
      exact whole.not
    unfold pluralChange
    refine ite_skip ?_ ?_
    · rw [isOneOf_append stem "s" _ ["new", "serie", "specie"] (by decide), listed.1]
      simp
    rw [(partner?_eq_none_iff _ irregularPlurals).mpr (isOneOf_append stem "s" _ [] (by decide))]
    refine ite_skip ((isOneOf_append stem "s" _ ["person"] (by decide)).trans listed.2) ?_
    refine ite_skip (isOneOf_append stem "s" _ [] (by decide)) ?_
    refine ite_test (endsInOneOf_append stem "s" _ _ (by decide) (by decide)) ?_
    refine ite_test ?_ ?_
    · rw [endsInOneOf_append stem "s" ["is"] ["i"] (by decide) (by decide), longer]
    refine ite_test (endsInOneOf_append stem "s" _ _ (by decide) (by decide)) ?_
    have plural : endsInOneOf (stem ++ "s".toList) ["s"] = true :=
      (endsInOneOf_iff _ _).mpr ⟨"s", List.mem_singleton.mpr rfl, List.suffix_append ..⟩
    rw [if_pos plural]

/-- Words in `-es` are plurals. -/
theorem pluralChange_es (stem : List Char) : pluralChange (stem ++ "es".toList) = .keep := by
  have whole : stem ++ "es".toList = stem ++ "e".toList ++ "s".toList := by simp
  rw [whole, pluralChange_s]
  refine ite_skip (endsInOneOf_append stem "e" _ [] (by decide) (by decide)) ?_
  refine ite_skip ?_ ?_
  · rw [endsInOneOf_append stem "e" ["i"] [] (by decide) (by decide)]
    rfl
  exact ite_skip (endsInOneOf_append stem "e" _ [] (by decide) (by decide)) rfl

/-! The plurals that the rules make. -/

theorem settled_of {word : List Char} {change : Change}
    (kept : pluralChange (change.apply word) = .keep) (once : isPluralizedTwice word = false) :
    Settled word change := by
  rw [Settled, kept]
  exact iff_of_true rfl once

theorem isPluralizedTwice_apart {word : List Char} {endings : List String}
    (ends : endsInOneOf word endings = true)
    (apart : ∀ one ∈ endings, ∀ other ∈ twiceEndings,
      ¬one.toList <:+ other.toList ∧ ¬other.toList <:+ one.toList) :
    isPluralizedTwice word = false := by
  rw [isPluralizedTwice, endsInOneOf_apart _ ends apart, Bool.false_and]

/-- A rule that writes `-es` in the place of what it has matched. -/
theorem settled_es {word : List Char} {endings : List String} {bytes : Nat} {ending : String}
    (matched front : String) (ends : endsInOneOf word endings = true)
    (common : ∀ other ∈ endings, matched.toList <:+ other.toList)
    (count : byteLength matched.toList = bytes)
    (written : ending.toList = front.toList ++ "es".toList)
    (apart : ∀ one ∈ endings, ∀ other ∈ twiceEndings,
      ¬one.toList <:+ other.toList ∧ ¬other.toList <:+ one.toList) :
    Settled word (.cut bytes ending) := by
  have once := isPluralizedTwice_apart ends apart
  obtain ⟨stem, rfl⟩ := suffix_of_endsInOneOf ends common
  refine settled_of ?_ once
  rw [← count, apply_cut, written, ← List.append_assoc, pluralChange_es]

/-- Of the words that take a plain `-s`, some have a plural that looks like a singular. -/
theorem settled_s {word : List Char} (noS : endsInOneOf word ["s"] = false) :
    Settled word (.cut 0 "s") := by
  have longer : (Change.cut 0 "es").apply (word ++ "s".toList) ≠ word ++ "s".toList := by
    rw [apply_cut_zero]
    exact fun same => absurd (List.append_right_eq_self.mp same) (by decide)
  have other (test : (endsInOneOf word ["i"] && word != "i".toList) = true) :
      (Change.cut 2 "es").apply (word ++ "s".toList) ≠ word ++ "s".toList :=
    apply_cut_ne "i" (suffix_of_endsInOneOf (Bool.and_eq_true_iff.mp test).1 (by decide))
      (by decide) (by decide)
  rw [Settled, apply_cut_zero, pluralChange_s, apply_ite_iff (fun _ => longer),
    apply_ite_iff other, apply_ite_iff (fun _ => longer), isPluralizedTwice]
  cases ends : endsInOneOf word ["i"] with
  | true =>
    have twice : endsInOneOf word twiceEndings = true := endsInOneOf_of_endings ends (by decide)
    by_cases single : word = "i".toList
    · subst single
      decide
    · rw [twice, bne_iff_ne.mpr single]
      simp
  | false =>
    have several : word ≠ "i".toList := by
      rintro rfl
      exact absurd ends (by decide)
    rw [endsInOneOf_without ["alia", "ga", "tla", "tma", "ri"] ["alia", "ga", "tla", "tma"] ends
        (by decide),
      endsInOneOf_without twiceEndings (["alia", "ga", "tla", "tma"] ++ ["u"]) ends (by decide),
      endsInOneOf_without ["u", "s"] ["u"] noS (by decide), endsInOneOf_append_list,
      bne_iff_ne.mpr several]
    simp [Change.apply]

/-- The plural of every word is settled, unless the word is pluralized twice. -/
theorem settled_pluralChange (word : List Char) : Settled word (pluralChange word) := by
  have irregular : ∀ pair ∈ irregularPlurals, Settled pair.1.toList (.become pair.2) := by decide
  have feWords : ∀ other ∈ feStems.map (· ++ "fe"), Settled other.toList (.cut 2 "ves") := by decide
  have oes : ∀ other ∈ oWords, Settled other.toList (.cut 0 "es") := by decide
  unfold pluralChange
  refine .ite ?_ (fun counted => ?_)
  · intro test
    rw [Bool.or_eq_true, List.isEmpty_iff] at test
    rcases test with rfl | uncountable
    · decide
    · exact of_isOneOf (Settled · .keep) uncountable (by decide)
  split
  · next plural found =>
    obtain ⟨pair, member, rfl, rfl⟩ := mem_of_partner? found
    exact irregular pair member
  next regular =>
  refine .ite (fun member => of_isOneOf (Settled · .keep) member (by decide)) (fun noPlural => ?_)
  refine .ite (fun member => of_isOneOf (Settled · .keep) member (by decide)) (fun noSecond => ?_)
  refine .ite (fun ends => settled_es "" "" ends (by decide) rfl (by decide) (by decide))
    (fun noSEnding => ?_)
  refine .ite ?_ (fun noIs => ?_)
  · intro test
    exact settled_es "is" "" (Bool.and_eq_true_iff.mp test).1 (by decide) (by decide) (by decide)
      (by decide)
  refine .ite (fun ends => settled_es "" "" ends (by decide) rfl (by decide) (by decide))
    (fun noHiss => ?_)
  refine .ite ?_ (fun noS => ?_)
  · intro ends
    refine settled_of ?_ (isPluralizedTwice_apart ends (by decide))
    -- The word is kept once more, as none of the rules before has taken it.
    change pluralChange word = .keep
    unfold pluralChange
    rw [ite_skip counted rfl, regular]
    exact ite_skip noPlural (ite_skip noSecond (ite_skip noSEnding (ite_skip noIs
      (ite_skip noHiss (ite_take ends)))))
  refine .ite ?_ (fun _ => ?_)
  · intro test
    exact settled_es "y" "i" (Bool.and_eq_true_iff.mp test).1 (by decide) (by decide) (by decide)
      (by decide)
  refine .ite (fun member => of_isOneOf (Settled · (.cut 2 "ves")) member feWords) (fun _ => ?_)
  refine .ite ?_ (fun _ => ?_)
  · intro ends
    exact settled_es "f" "v" ends (by decide) (by decide) (by decide) (by decide)
  exact .ite (fun member => of_isOneOf (Settled · (.cut 0 "es")) member oes) (fun _ => settled_s noS)

/-! The plurals of names. -/

theorem pluralText_pluralText_iff (text : List Char) (lowered : ∀ c ∈ text, IsLowered c) :
    pluralText (pluralText text) = pluralText text ↔
      isPluralizedTwice (splitLastWord text).2 = false := by
  by_cases empty : (splitLastWord text).2 = []
  · rw [empty]
    refine iff_of_true ?_ (by decide)
    rcases pluralText_of_empty text lowered empty with rfl | ⟨front, -, plural⟩
    · decide
    · have kept : (pluralChange "s".toList).apply "s".toList = "s".toList := by decide
      rw [plural, pluralText_append _ isWord_s (Or.inr ⟨front, rfl⟩), kept]
  · obtain ⟨head, last, rfl, same, isWord, start⟩ := exists_lastWord text lowered empty
    rw [same, pluralText_append head isWord start, pluralText_append head isWord.plural start,
      List.append_cancel_left_eq]
    exact settled_pluralChange last

theorem pluralize_pluralize_iff (typeName : String) :
    pluralize (pluralize (snakeCase typeName)) = pluralize (snakeCase typeName) ↔
      isPluralizedTwice (lastWord (snakeCase typeName)) = false := by
  have lowered := (isSnake_snakeText typeName.toList).lowered
  rw [← String.toList_inj]
  simp only [pluralize, snakeCase, lastWord, String.toList_ofList]
  exact pluralText_pluralText_iff _ lowered

theorem snakeCase_tableName (typeName : String) :
    snakeCase (tableName typeName) = tableName typeName := by
  have snake := isSnake_pluralText _ (isSnake_snakeText typeName.toList)
  rw [snakeCase, toList_tableName, snakeText_of_isSnake _ snake, ← toList_tableName,
    String.ofList_toList]

/-- A type that is declared under the name of a table has this table, unless the last word of the
name is pluralized twice. -/
theorem tableName_tableName_iff (typeName : String) :
    (pluralize (pluralize (snakeCase typeName)) = pluralize (snakeCase typeName) ↔
      isPluralizedTwice (lastWord (snakeCase typeName)) = false) ∧
    (tableName (tableName typeName) = tableName typeName ↔
      isPluralizedTwice (lastWord (snakeCase typeName)) = false) ∧
    ∀ plural, snakeCase plural = tableName typeName →
      (tableName plural = tableName typeName ↔
        isPluralizedTwice (lastWord (snakeCase typeName)) = false) := by
  have again := pluralize_pluralize_iff typeName
  have named (plural : String) (same : snakeCase plural = tableName typeName) :
      tableName plural = tableName typeName ↔
        isPluralizedTwice (lastWord (snakeCase typeName)) = false := by
    rw [tableName, same]
    exact again
  exact ⟨again, named _ (snakeCase_tableName typeName), named⟩

theorem tableName_tableName_blogPost :
    snakeCase "BlogPosts" = tableName "BlogPost" ∧ tableName "BlogPosts" = tableName "BlogPost" :=
  have plural : snakeCase "BlogPosts" = tableName "BlogPost" := by decide
  ⟨plural, ((tableName_tableName_iff "BlogPost").2.2 "BlogPosts" plural).mpr (by decide)⟩

/-- The plural `menus` is taken for a singular. -/
theorem tableName_menus :
    tableName "Menu" = "menus" ∧ tableName (tableName "Menu") = "menuses" ∧
      pluralize (pluralize (snakeCase "Menu")) ≠ pluralize (snakeCase "Menu") ∧
      tableName "Menus" ≠ tableName "Menu" := by
  decide

end RecordSql.Name
