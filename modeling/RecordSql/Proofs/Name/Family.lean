import RecordSql.Proofs.Name.ForeignKey

/-!
Families of words that come back from their plural: those that end in a hissing sound, in `-y`, or
in `-f` with a plural in `-ves`. Two words of these families are exceptions, since the plurals that
they would have are words of their own.
-/

namespace RecordSql.Name
open Unicode

/-- The endings of the families. -/
def familyEndings : List String := ["ss", "sh", "ch", "x", "z", "lf", "eaf", "y"]

/-- No rule for singulars takes a word of these families for a plural. -/
theorem singularChange_of_ending {word : List Char} (ends : endsInOneOf word familyEndings = true) :
    singularChange word = .keep := by
  unfold singularChange
  refine ite_same ?_
  rw [(partner?_eq_none_iff _ (irregularPlurals.map Prod.swap)).mpr (isOneOf_apart ends (by decide))]
  refine ite_same ?_
  rw [(partner?_eq_none_iff _ secondPlurals).mpr (isOneOf_apart ends (by decide))]
  refine ite_same ?_
  refine ite_skip (endsInOneOf_apart _ ends (by decide)) ?_
  refine ite_skip (endsInOneOf_apart _ ends (by decide)) ?_
  refine ite_skip ?_ ?_
  · rw [endsInOneOf_apart _ ends (by decide)]
    rfl
  refine ite_skip (isOneOf_apart ends (by decide)) ?_
  refine ite_skip (endsInOneOf_apart _ ends (by decide)) ?_
  refine ite_skip (isOneOf_apart ends (by decide)) ?_
  refine ite_skip (endsInOneOf_apart _ ends (by decide)) ?_
  refine ite_skip ?_ ?_
  · rw [endsInOneOf_apart _ ends (by decide)]
    rfl
  -- Only `-ss` ends in `-s`, and it is kept.
  cases plural : endsInOneOf word ["s"] with
  | false => exact ite_same rfl
  | true =>
    rw [endsInOneOf_among familyEndings ["ss"] plural (by decide)] at ends
    exact ite_take (endsInOneOf_of_endings ends (by decide))

theorem isMisread_of_ending {word : List Char} (ends : endsInOneOf word familyEndings = true)
    (other : isOneOf word ["sery", "specy"] = false) : isMisread word = false :=
  isMisread_eq_false ((isOneOf_among misreadWords _ ends (by decide)).trans other)
    (endsInOneOf_apart _ ends (by decide)) (endsInOneOf_apart _ ends (by decide))
    (endsInOneOf_apart _ ends (by decide)) (endsInOneOf_apart _ ends (by decide))

theorem isWord_of_letters {word : List Char} (letters : ∀ c ∈ word, c.isLower = true)
    (nonempty : word ≠ []) : IsWord word where
  lowered := fun c member => isLowered_of_isLower c (letters c member)
  single := fun member => absurd (letters '_' member) (by decide)
  nonempty := nonempty

/-- The plural of a name that ends in a word of the families, and the singular of both. -/
theorem singularText_pluralText_of_ending (head : List Char) {word : List Char} (isWord : IsWord word)
    (start : head = [] ∨ ∃ front, head = front ++ ['_'])
    (ends : endsInOneOf word familyEndings = true)
    (other : isOneOf word ["sery", "specy"] = false) :
    pluralText (head ++ word) = head ++ pluralText word ∧
      singularText (head ++ word) = head ++ word ∧
      singularText (pluralText (head ++ word)) = head ++ word := by
  have keep := singularChange_of_ending ends
  have restored := (restored_pluralChange word (by rw [keep]; rfl)).mpr
    (isMisread_of_ending ends other)
  have alone : pluralText word = _ := pluralText_append [] isWord (Or.inl rfl)
  rw [pluralText_append head isWord start, alone, singularText_append head isWord start, keep,
    singularText_append head isWord.plural start, restored]
  exact ⟨rfl, rfl, rfl⟩

/-- A word of one of the families comes back from its plural, alone and as the last word of a name,
and what stands before it in the name stays as it is. -/
theorem singularize_pluralize_of_ending (word : String)
    (letters : ∀ c ∈ word.toList, c.isLower = true)
    (ending : ∃ ending ∈ ["ss", "sh", "ch", "x", "z", "lf", "eaf", "y"],
      ending.toList <:+ word.toList)
    (other : word ∉ ["sery", "specy"]) :
    singularize (pluralize word) = word ∧
      ∀ head : String, pluralize (head ++ "_" ++ word) = head ++ "_" ++ pluralize word ∧
        singularize (head ++ "_" ++ word) = head ++ "_" ++ word ∧
        singularize (pluralize (head ++ "_" ++ word)) = head ++ "_" ++ word := by
  have ends : endsInOneOf word.toList familyEndings = true := (endsInOneOf_iff _ _).mpr ending
  have regular : isOneOf word.toList ["sery", "specy"] = false := by
    rw [Bool.eq_false_iff]
    intro listed
    obtain ⟨known, member, same⟩ := (isOneOf_iff _ _).mp listed
    exact other (String.toList_inj.mp same ▸ member)
  have isWord : IsWord word.toList := by
    refine isWord_of_letters letters ?_
    intro empty
    rw [empty] at ends
    contradiction
  have texts (head : List Char) (start : head = [] ∨ ∃ front, head = front ++ ['_']) :=
    singularText_pluralText_of_ending head isWord start ends regular
  refine ⟨?_, fun head => ?_⟩
  · have back := (texts [] (Or.inl rfl)).2.2
    rw [← String.toList_inj]
    simpa [pluralize, singularize] using back
  · obtain ⟨plural, singular, back⟩ := texts (head.toList ++ ['_']) (Or.inr ⟨head.toList, rfl⟩)
    refine ⟨?_, ?_, ?_⟩
    all_goals
      rw [← String.toList_inj]
      simp only [pluralize, singularize, String.toList_ofList, String.toList_append]
    · exact plural
    · exact singular
    · exact back

/-- The plural `boxes` of a name's last word leads back to it. -/
theorem singularize_pluralize_of_ending_toyBox :
    singularize (pluralize "box") = "box" ∧
      pluralize ("toy" ++ "_" ++ "box") = "toy" ++ "_" ++ pluralize "box" ∧
      singularize (pluralize ("toy" ++ "_" ++ "box")) = "toy" ++ "_" ++ "box" :=
  have family := singularize_pluralize_of_ending "box" (by simp) ⟨"x", by decide, by decide⟩
    (by decide)
  ⟨family.1, (family.2 "toy").1, (family.2 "toy").2.2⟩

/-- The plural of `sery` would be a word of its own. -/
example : pluralize "sery" = "series" ∧ singularize "series" = "series" := by decide

end RecordSql.Name
