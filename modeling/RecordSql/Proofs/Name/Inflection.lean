import RecordSql.Proofs.Name.Change
import RecordSql.Proofs.Name.Ending

/-!
Every rule of inflection keeps a word, puts its partner in its place, or cuts only letters that it
has found at the end of the word. The word that is inflected is the last one of a name.
-/

namespace RecordSql.Name

/-- The endings that the rules for plurals take off, each with the one that they put on. -/
def pluralCuts : List (String × String) :=
  [("", "es"), ("is", "es"), ("y", "ies"), ("fe", "ves"), ("f", "ves"), ("", "s")]

/-- The endings that the rules for singulars take off, each with the one that they put on. -/
def singularCuts : List (String × String) :=
  [("es", "is"), ("es", ""), ("ies", "y"), ("ves", "fe"), ("ves", "f"), ("s", "")]

section
variable {pairs cuts : List (String × String)} {word : List Char} {bytes : Nat} {ending : String}

theorem follows_partner {own : List (String × String)} {other : String}
    (found : partner? word own = some other) (listed : ∀ pair ∈ own, pair ∈ pairs) :
    (Change.become other).Follows pairs cuts word := by
  obtain ⟨pair, member, same, rfl⟩ := mem_of_partner? found
  exact .become pair (listed pair member) same

theorem follows_ending {endings : List String} (matched : String)
    (ends : endsInOneOf word endings = true) (member : (matched, ending) ∈ cuts)
    (common : ∀ other ∈ endings, matched.toList <:+ other.toList)
    (count : byteLength matched.toList = bytes) :
    (Change.cut bytes ending).Follows pairs cuts word :=
  .cut matched ending bytes member (suffix_of_endsInOneOf ends common) count

theorem follows_word {words : List String} (matched : String)
    (listed : isOneOf word words = true) (member : (matched, ending) ∈ cuts)
    (common : ∀ other ∈ words, matched.toList <:+ other.toList)
    (count : byteLength matched.toList = bytes) :
    (Change.cut bytes ending).Follows pairs cuts word :=
  .cut matched ending bytes member (of_isOneOf (matched.toList <:+ ·) listed common) count

theorem follows_add (member : ("", ending) ∈ cuts) :
    (Change.cut 0 ending).Follows pairs cuts word :=
  .cut "" ending 0 member List.nil_suffix rfl

end

theorem pluralChange_follows (word : List Char) :
    (pluralChange word).Follows irregularPlurals pluralCuts word := by
  unfold pluralChange
  refine .ite (fun _ => .keep) ?_
  split
  · next found => exact follows_partner found (by decide)
  refine .ite (fun _ => .keep) (.ite (fun _ => .keep) ?_)
  refine .ite (fun _ => follows_add (by decide)) ?_
  refine .ite (fun ends => ?_) ?_
  · exact follows_ending "is" (Bool.and_eq_true_iff.mp ends).1 (by decide) (by decide) (by decide)
  refine .ite (fun _ => follows_add (by decide)) (.ite (fun _ => .keep) ?_)
  refine .ite (fun ends => ?_) ?_
  · exact follows_ending "y" (Bool.and_eq_true_iff.mp ends).1 (by decide) (by decide) (by decide)
  refine .ite (fun listed => follows_word "fe" listed (by decide) (by decide) (by decide)) ?_
  refine .ite (fun ends => follows_ending "f" ends (by decide) (by decide) (by decide)) ?_
  exact .ite (fun _ => follows_add (by decide)) (follows_add (by decide))

theorem singularChange_follows (word : List Char) :
    (singularChange word).Follows (irregularPlurals.map Prod.swap ++ secondPlurals) singularCuts
      word := by
  unfold singularChange
  refine .ite (fun _ => .keep) ?_
  split
  · next found => exact follows_partner found (by decide)
  refine .ite (fun _ => .keep) ?_
  split
  · next found => exact follows_partner found (by decide)
  refine .ite (fun _ => .keep) ?_
  refine .ite (fun ends => follows_ending "es" ends (by decide) (by decide) (by decide)) ?_
  refine .ite (fun ends => follows_ending "es" ends (by decide) (by decide) (by decide)) ?_
  refine .ite (fun ends => ?_) ?_
  · exact follows_ending "ies" (Bool.and_eq_true_iff.mp ends).1 (by decide) (by decide) (by decide)
  refine .ite (fun listed => follows_word "ves" listed (by decide) (by decide) (by decide)) ?_
  refine .ite (fun ends => follows_ending "ves" ends (by decide) (by decide) (by decide)) ?_
  refine .ite (fun listed => follows_word "es" listed (by decide) (by decide) (by decide)) ?_
  refine .ite (fun ends => follows_ending "es" ends (by decide) (by decide) (by decide)) ?_
  refine .ite (fun ends => ?_) ?_
  · exact follows_ending "es" (Bool.and_eq_true_iff.mp ends).1 (by decide) (by decide) (by decide)
  refine .ite (fun _ => .keep) (.ite (fun ends => ?_) .keep)
  exact follows_ending "s" ends (by decide) (by decide) (by decide)

theorem pluralChange_fits (word : List Char) : (pluralChange word).Fits word :=
  (pluralChange_follows word).fits (by decide) (by decide)

theorem pluralChange_writes (word : List Char) : (pluralChange word).Writes :=
  (pluralChange_follows word).writes (by decide) (by decide)

theorem singularChange_fits (word : List Char) : (singularChange word).Fits word :=
  (singularChange_follows word).fits (by decide) (by decide)

/-! The last word of a name. -/

theorem splitLastWord_append (text : List Char) :
    (splitLastWord text).1 ++ (splitLastWord text).2 = text := by
  induction text with
  | nil => rfl
  | cons c text ih =>
    simp only [splitLastWord]
    split
    · rw [List.cons_append, ih]
    · next inWord =>
      simp only [Bool.or_eq_true, Bool.not_eq_true', not_or, Bool.not_eq_false,
        List.isEmpty_iff] at inWord
      rw [inWord.2, List.nil_append] at ih ⊢
      rw [ih]

theorem splitLastWord_word (word : List Char) (single : '_' ∉ word) :
    splitLastWord word = ([], word) := by
  induction word with
  | nil => rfl
  | cons c word ih =>
    have other : c ≠ '_' := fun same => single (same ▸ List.mem_cons_self ..)
    have rest := ih (fun member => single (List.mem_cons_of_mem c member))
    simp [splitLastWord, rest, other]

theorem splitLastWord_head (head word : List Char) (single : '_' ∉ word) :
    splitLastWord (head ++ '_' :: word) = (head ++ ['_'], word) := by
  induction head with
  | nil => simp [splitLastWord, splitLastWord_word word single]
  | cons c head ih => simp [splitLastWord, ih]

/-- A name is one word, or ends in a word after an underscore. -/
theorem splitLastWord_cases (text : List Char) :
    '_' ∉ (splitLastWord text).2 ∧
      ((splitLastWord text).1 = [] ∨ ∃ head, (splitLastWord text).1 = head ++ ['_']) := by
  induction text with
  | nil => simp [splitLastWord]
  | cons c text ih =>
    obtain ⟨single, heads⟩ := ih
    simp only [splitLastWord]
    split
    · next inHead =>
      refine ⟨single, Or.inr ?_⟩
      rcases heads with empty | ⟨head, same⟩
      · have same : c = '_' := by simpa [empty] using inHead
        exact ⟨[], by rw [empty, same]; rfl⟩
      · exact ⟨c :: head, by rw [same]; rfl⟩
    · next inWord =>
      simp only [Bool.or_eq_true, beq_iff_eq, Bool.not_eq_true', not_or, Bool.not_eq_false,
        List.isEmpty_iff] at inWord
      refine ⟨?_, Or.inl inWord.2⟩
      simp only [List.mem_cons, not_or]
      exact ⟨fun same => inWord.1 same.symm, single⟩

/-! Characters that are mapped to others, and underscores to underscores only. -/

section
variable (f : Char → Char) {text : List Char}

theorem splitLastWord_map (underscores : ∀ c ∈ text, f c = '_' ↔ c = '_') :
    splitLastWord (text.map f) =
      ((splitLastWord text).1.map f, (splitLastWord text).2.map f) := by
  induction text with
  | nil => rfl
  | cons c text ih =>
    rw [List.forall_mem_cons] at underscores
    have first : (f c == '_') = (c == '_') := by
      rw [Bool.eq_iff_iff, beq_iff_eq, beq_iff_eq]
      exact underscores.1
    simp only [List.map_cons, splitLastWord, ih underscores.2, first, List.isEmpty_map]
    split <;> rfl

theorem inflectLast_map (inflect : List Char → List Char)
    (underscores : ∀ c ∈ text, f c = '_' ↔ c = '_')
    (words : ∀ word, (∀ c ∈ word, c ∈ text) → inflect (word.map f) = (inflect word).map f) :
    inflectLast inflect (text.map f) = (inflectLast inflect text).map f := by
  have last : ∀ c ∈ (splitLastWord text).2, c ∈ text := by
    intro c member
    rw [← splitLastWord_append text]
    exact List.mem_append_right _ member
  simp only [inflectLast, splitLastWord_map f underscores, List.isEmpty_map]
  split
  · exact words text (fun _ member => member)
  · rw [words _ last, List.map_append]

end

end RecordSql.Name
