import RecordSql.Name.Inflection
import Mathlib.Data.List.Infix

/-!
What the ending of a word says about other endings. Of two endings of one word the shorter is an
ending of the longer, so a word that has an ending from one list has none from a list apart from it.
-/

namespace RecordSql.Name

theorem isOneOf_iff (word : List Char) (words : List String) :
    isOneOf word words = true ↔ ∃ other ∈ words, other.toList = word := by
  simp [isOneOf]

theorem endsInOneOf_iff (word : List Char) (endings : List String) :
    endsInOneOf word endings = true ↔ ∃ ending ∈ endings, ending.toList <:+ word := by
  simp [endsInOneOf]

/-- What holds of every word of a list holds of a word that is one of them. -/
theorem of_isOneOf (property : List Char → Prop) {word : List Char} {words : List String}
    (member : isOneOf word words = true) (holds : ∀ other ∈ words, property other.toList) :
    property word := by
  obtain ⟨other, inWords, same⟩ := (isOneOf_iff word words).mp member
  exact same ▸ holds other inWords

theorem suffix_of_endsInOneOf {word matched : List Char} {endings : List String}
    (ends : endsInOneOf word endings = true) (common : ∀ ending ∈ endings, matched <:+ ending.toList) :
    matched <:+ word := by
  obtain ⟨ending, member, atEnd⟩ := (endsInOneOf_iff word endings).mp ends
  exact (common ending member).trans atEnd

theorem endsInOneOf_apart {word : List Char} {first : List String} (second : List String)
    (ends : endsInOneOf word first = true)
    (apart : ∀ one ∈ first, ∀ other ∈ second,
      ¬one.toList <:+ other.toList ∧ ¬other.toList <:+ one.toList) :
    endsInOneOf word second = false := by
  rw [Bool.eq_false_iff]
  intro both
  obtain ⟨one, inFirst, atEnd⟩ := (endsInOneOf_iff word first).mp ends
  obtain ⟨other, inSecond, alsoAtEnd⟩ := (endsInOneOf_iff word second).mp both
  have neither := apart one inFirst other inSecond
  rcases List.suffix_or_suffix_of_suffix atEnd alsoAtEnd with inside | inside
  · exact neither.1 inside
  · exact neither.2 inside

/-- A word with one of some endings has another only if one of the two is an ending of the other. -/
theorem endsInOneOf_among {word : List Char} {first : List String} (second kept : List String)
    (ends : endsInOneOf word first = true)
    (same : second.filter (fun other => first.any (fun one =>
      one.toList.isSuffixOf other.toList || other.toList.isSuffixOf one.toList)) = kept) :
    endsInOneOf word second = endsInOneOf word kept := by
  rw [Bool.eq_iff_iff, endsInOneOf_iff, endsInOneOf_iff, ← same]
  constructor
  · intro found
    obtain ⟨other, member, alsoAtEnd⟩ := found
    obtain ⟨one, inFirst, atEnd⟩ := (endsInOneOf_iff word first).mp ends
    refine ⟨other, List.mem_filter.mpr ⟨member, List.any_eq_true.mpr ⟨one, inFirst, ?_⟩⟩, alsoAtEnd⟩
    rw [Bool.or_eq_true, List.isSuffixOf_iff_suffix, List.isSuffixOf_iff_suffix]
    exact List.suffix_or_suffix_of_suffix atEnd alsoAtEnd
  · intro found
    obtain ⟨other, member, atEnd⟩ := found
    exact ⟨other, (List.mem_filter.mp member).1, atEnd⟩

theorem endsInOneOf_of_endings {word : List Char} {first second : List String}
    (ends : endsInOneOf word first = true)
    (covered : ∀ one ∈ first, ∃ other ∈ second, other.toList <:+ one.toList) :
    endsInOneOf word second = true := by
  obtain ⟨one, inFirst, atEnd⟩ := (endsInOneOf_iff word first).mp ends
  obtain ⟨other, inSecond, inside⟩ := covered one inFirst
  exact (endsInOneOf_iff word second).mpr ⟨other, inSecond, inside.trans atEnd⟩

theorem isOneOf_apart {word : List Char} {endings words : List String}
    (ends : endsInOneOf word endings = true)
    (apart : ∀ other ∈ words, endsInOneOf other.toList endings = false) :
    isOneOf word words = false := by
  rw [Bool.eq_false_iff]
  intro member
  obtain ⟨other, inWords, rfl⟩ := (isOneOf_iff word words).mp member
  rw [apart other inWords] at ends
  contradiction

/-- A word is looked for among the words of which the same holds. -/
theorem isOneOf_filter {word : List Char} (property : List Char → Bool) (words : List String)
    (holds : property word = true) :
    isOneOf word (words.filter (fun other => property other.toList)) = isOneOf word words := by
  rw [Bool.eq_iff_iff, isOneOf_iff, isOneOf_iff]
  constructor
  · intro found
    obtain ⟨other, member, whole⟩ := found
    exact ⟨other, (List.mem_filter.mp member).1, whole⟩
  · intro found
    obtain ⟨other, member, rfl⟩ := found
    exact ⟨other, List.mem_filter.mpr ⟨member, holds⟩, rfl⟩

theorem isOneOf_among {word : List Char} {endings : List String} (words kept : List String)
    (ends : endsInOneOf word endings = true)
    (same : words.filter (fun other => endsInOneOf other.toList endings) = kept) :
    isOneOf word words = isOneOf word kept :=
  same ▸ (isOneOf_filter (endsInOneOf · endings) words ends).symm

theorem isOneOf_without {word : List Char} {endings : List String} (words kept : List String)
    (absent : endsInOneOf word endings = false)
    (same : words.filter (fun other => !endsInOneOf other.toList endings) = kept) :
    isOneOf word words = isOneOf word kept :=
  same ▸ (isOneOf_filter (fun other => !endsInOneOf other endings) words (by rw [absent]; rfl)).symm

theorem endsInOneOf_without {word : List Char} {endings : List String} (others kept : List String)
    (absent : endsInOneOf word endings = false)
    (same : others.filter (fun other => !endsInOneOf other.toList endings) = kept) :
    endsInOneOf word others = endsInOneOf word kept := by
  rw [Bool.eq_iff_iff, endsInOneOf_iff, endsInOneOf_iff, ← same]
  constructor
  · intro found
    obtain ⟨other, member, atEnd⟩ := found
    refine ⟨other, List.mem_filter.mpr ⟨member, ?_⟩, atEnd⟩
    rw [Bool.not_eq_true', Bool.eq_false_iff]
    intro covered
    obtain ⟨ending, inEndings, inside⟩ := (endsInOneOf_iff _ _).mp covered
    rw [(endsInOneOf_iff word endings).mpr ⟨ending, inEndings, inside.trans atEnd⟩] at absent
    contradiction
  · intro found
    obtain ⟨other, member, atEnd⟩ := found
    exact ⟨other, (List.mem_filter.mp member).1, atEnd⟩

theorem exists_stem {word : List Char} {ending : String} (ends : endsInOneOf word [ending] = true) :
    ∃ stem, word = stem ++ ending.toList := by
  obtain ⟨other, member, stem, whole⟩ := (endsInOneOf_iff word [ending]).mp ends
  rw [List.mem_singleton] at member
  exact ⟨stem, by rw [← whole, member]⟩

theorem isOneOf_append_list (word : List Char) (first second : List String) :
    isOneOf word (first ++ second) = (isOneOf word first || isOneOf word second) :=
  List.any_append

theorem endsInOneOf_append_list (word : List Char) (first second : List String) :
    endsInOneOf word (first ++ second) = (endsInOneOf word first || endsInOneOf word second) :=
  List.any_append

/-- A word with an ending is in a list if its stem is one of the stems that the list has for this
ending. -/
theorem isOneOf_append (word : List Char) (ending : String) (words stems : List String)
    (same : words.filter (fun other => ending.toList.isSuffixOf other.toList) =
      stems.map (· ++ ending)) :
    isOneOf (word ++ ending.toList) words = isOneOf word stems := by
  rw [Bool.eq_iff_iff, isOneOf_iff, isOneOf_iff]
  have member : ∀ other, other ∈ words ∧ ending.toList <:+ other.toList ↔
      ∃ stem ∈ stems, stem ++ ending = other := by
    intro other
    rw [← List.mem_map, ← same, List.mem_filter, List.isSuffixOf_iff_suffix]
  constructor
  · intro found
    obtain ⟨other, inWords, whole⟩ := found
    obtain ⟨stem, inStems, rfl⟩ := (member other).mp ⟨inWords, whole ▸ List.suffix_append ..⟩
    rw [String.toList_append] at whole
    exact ⟨stem, inStems, List.append_cancel_right whole⟩
  · intro found
    obtain ⟨stem, inStems, rfl⟩ := found
    exact ⟨stem ++ ending, ((member _).mpr ⟨stem, inStems, rfl⟩).1, String.toList_append⟩

theorem endsInOneOf_append (word : List Char) (ending : String) (endings stems : List String)
    (same : endings.filter (fun other => ending.toList.isSuffixOf other.toList) =
      stems.map (· ++ ending))
    (long : ∀ other ∈ endings, other.toList <:+ ending.toList → ending.toList <:+ other.toList) :
    endsInOneOf (word ++ ending.toList) endings = endsInOneOf word stems := by
  rw [Bool.eq_iff_iff, endsInOneOf_iff, endsInOneOf_iff]
  have member : ∀ other, other ∈ endings ∧ ending.toList <:+ other.toList ↔
      ∃ stem ∈ stems, stem ++ ending = other := by
    intro other
    rw [← List.mem_map, ← same, List.mem_filter, List.isSuffixOf_iff_suffix]
  constructor
  · intro found
    obtain ⟨other, inEndings, atEnd⟩ := found
    have covers : ending.toList <:+ other.toList := by
      rcases List.suffix_or_suffix_of_suffix atEnd (List.suffix_append word ending.toList) with
        inside | inside
      · exact long other inEndings inside
      · exact inside
    obtain ⟨stem, inStems, rfl⟩ := (member other).mp ⟨inEndings, covers⟩
    rw [String.toList_append, List.suffix_append_self_iff] at atEnd
    exact ⟨stem, inStems, atEnd⟩
  · intro found
    obtain ⟨stem, inStems, atEnd⟩ := found
    refine ⟨stem ++ ending, ((member _).mpr ⟨stem, inStems, rfl⟩).1, ?_⟩
    rw [String.toList_append, List.suffix_append_self_iff]
    exact atEnd

theorem beforeEnd?_append (word ending : List Char) (count : Nat) :
    beforeEnd? (word ++ ending) (ending.length + count) = beforeEnd? word count := by
  rw [beforeEnd?, beforeEnd?, List.reverse_append, List.getElem?_append_right (by simp)]
  simp

theorem partner?_eq_none_iff (word : List Char) (pairs : List (String × String)) :
    partner? word pairs = none ↔ isOneOf word (pairs.map Prod.fst) = false := by
  simp [partner?, isOneOf]

theorem mem_of_partner? {word : List Char} {pairs : List (String × String)} {other : String}
    (found : partner? word pairs = some other) : ∃ pair ∈ pairs, pair.1.toList = word ∧ pair.2 = other := by
  obtain ⟨pair, first, second⟩ := Option.map_eq_some_iff.mp found
  have same := List.find?_some first
  exact ⟨pair, List.mem_of_find?_eq_some first, by simpa using same, second⟩

end RecordSql.Name
