import RecordSql.Proofs.Name.Inflection
import RecordSql.Proofs.Unicode.LowerCase

/-!
Capitals in a name do not decide how its last word is inflected. The rules look at the lower case of
the word; what they cut has the same size in both cases, and what they write is in lower case.
-/

namespace RecordSql.Name
open Unicode

theorem toLower_eq_underscore_iff (c : Char) (ascii : c.toNat < 128) : c.toLower = '_' ↔ c = '_' :=
  of_ascii (fun c => c.toLower = '_' ↔ c = '_') (by decide) c ascii

theorem Change.Fits.written_toLower {change : Change} {word : List Char} (fits : change.Fits word) :
    change.written.map Char.toLower = change.written := by
  have letters := List.all_eq_true.mp fits.1
  rw [List.map_congr_left (g := id), List.map_id]
  exact fun c member => toLower_of_isLower c (letters c member)

theorem inflectLast_toLower (choose : List Char → Change) (fits : ∀ word, (choose word).Fits word)
    (text : List Char) (ascii : ∀ c ∈ text, c.toNat < 128) :
    inflectLast (fun word => (choose (lowerText word)).apply word) (text.map Char.toLower) =
      (inflectLast (fun word => (choose (lowerText word)).apply word) text).map Char.toLower := by
  apply inflectLast_map
  · exact fun c member => toLower_eq_underscore_iff c (ascii c member)
  · intro word inside
    have inAscii : ∀ c ∈ word, c.toNat < 128 := fun c member => ascii c (inside c member)
    have sizes : ∀ c ∈ word, c.toLower.utf8Size = c.utf8Size :=
      fun c member => utf8Size_toLower c (inAscii c member)
    rw [lowerText_toLower word inAscii]
    exact Change.apply_map Char.toLower _ (fits _).written_toLower sizes

/-- The plural and the singular of a name in lower case are those of the name, in lower case. -/
theorem toLower_inflected (name : String) (ascii : ∀ c ∈ name.toList, c.toNat < 128) :
    (pluralize name).toLower = pluralize name.toLower ∧
      (singularize name).toLower = singularize name.toLower := by
  have letters (text : String) : text.toLower.toList = text.toList.map Char.toLower :=
    String.toList_map
  constructor
  · rw [← String.toList_inj, letters, pluralize, pluralize, String.toList_ofList,
      String.toList_ofList, letters]
    exact (inflectLast_toLower pluralChange pluralChange_fits _ ascii).symm
  · rw [← String.toList_inj, letters, singularize, singularize, String.toList_ofList,
      String.toList_ofList, letters]
    exact (inflectLast_toLower singularChange singularChange_fits _ ascii).symm

/-- One word is cut among capitals, and the other gives way to a word in lower case. -/
theorem toLower_inflected_knife :
    (∀ c ∈ "Old__KniFE".toList, c.toNat < 128) ∧ (∀ c ∈ "Toy_MICE".toList, c.toNat < 128) ∧
      pluralize "Old__KniFE" = "Old__Knives" ∧
      (pluralize "Old__KniFE").toLower = pluralize "Old__KniFE".toLower ∧
      singularize "Toy_MICE" = "Toy_mouse" ∧
      (singularize "Toy_MICE").toLower = singularize "Toy_MICE".toLower := by
  have knife : ∀ c ∈ "Old__KniFE".toList, c.toNat < 128 := by simp
  have mice : ∀ c ∈ "Toy_MICE".toList, c.toNat < 128 := by simp
  exact ⟨knife, mice, by decide, (toLower_inflected _ knife).1, by decide,
    (toLower_inflected _ mice).2⟩

end RecordSql.Name
