import RecordSql.Name.Words
import RecordSql.Proofs.Unicode.Joining

/-!
Hyphens and spaces that separate no words, since a mark after them or a sign before them holds them.
Lower case keeps them held, and so do the clusters of a text: a cluster of one hyphen or space is one
that nothing holds.
-/

namespace RecordSql.Name
open Unicode

/-- Whether every hyphen or space is held by the mark after it or by the sign before it. `held` tells
whether there is such a sign before the text. -/
def separatorsHeld (held : Bool) : List Char → Bool
  | [] => true
  | c :: text =>
      (!(c == '-' || c == ' ') || held || text.head?.any isMark) &&
        separatorsHeld (isPrepended c) text

theorem separatorsHeld_cons (held : Bool) (c : Char) (text : List Char) :
    separatorsHeld held (c :: text) = true ↔
      ((c = '-' ∨ c = ' ') → held = true ∨ text.head?.any isMark = true) ∧
        separatorsHeld (isPrepended c) text = true := by
  simp only [separatorsHeld, Bool.and_eq_true, Bool.or_eq_true, Bool.not_eq_true',
    Bool.or_eq_false_iff, beq_eq_false_iff_ne, ne_eq, ← not_or, or_assoc,
    Decidable.imp_iff_not_or]

theorem separatorsHeld_of_false (held : Bool) (text : List Char)
    (inText : separatorsHeld false text = true) : separatorsHeld held text = true := by
  cases text with
  | nil => rfl
  | cons c text =>
    rw [separatorsHeld_cons] at inText ⊢
    exact ⟨fun separator => Or.inr ((inText.1 separator).resolve_left Bool.false_ne_true), inText.2⟩

theorem separatorsHeld_append (held : Bool) (front back : List Char)
    (inFront : separatorsHeld held front = true) (inBack : separatorsHeld false back = true) :
    separatorsHeld held (front ++ back) = true := by
  induction front generalizing held with
  | nil => exact separatorsHeld_of_false held back inBack
  | cons c front ih =>
    rw [separatorsHeld_cons] at inFront
    rw [List.cons_append, separatorsHeld_cons]
    refine ⟨fun separator => (inFront.1 separator).imp_right ?_, ih _ inFront.2⟩
    intro mark
    cases front with
    | nil => contradiction
    | cons d front => exact mark

theorem separatorsHeld_front (held : Bool) (front back : List Char)
    (whole : separatorsHeld held (front ++ back) = true) (plain : back.head?.any isMark = false) :
    separatorsHeld held front = true := by
  induction front generalizing held with
  | nil => rfl
  | cons c front ih =>
    rw [List.cons_append, separatorsHeld_cons] at whole
    rw [separatorsHeld_cons]
    refine ⟨fun separator => (whole.1 separator).imp_right ?_, ih _ whole.2⟩
    intro mark
    cases front with
    | nil =>
      rw [List.nil_append, plain] at mark
      contradiction
    | cons d front => exact mark

theorem separatorsHeld_of_mem (held : Bool) (text : List Char)
    (none : ∀ c ∈ text, c ≠ '-' ∧ c ≠ ' ') : separatorsHeld held text = true := by
  induction text generalizing held with
  | nil => rfl
  | cons c text ih =>
    rw [List.forall_mem_cons] at none
    rw [separatorsHeld_cons]
    refine ⟨?_, ih _ none.2⟩
    intro separator
    rcases separator with hyphen | space
    · exact absurd hyphen none.1.1
    · exact absurd space none.1.2

theorem separatorsHeld_intercalate (words : List (List Char))
    (held : ∀ word ∈ words, separatorsHeld false word = true) :
    separatorsHeld false (['_'].intercalate words) = true := by
  induction words with
  | nil => rfl
  | cons word words ih =>
    rw [List.forall_mem_cons] at held
    have tail := ih held.2
    cases words with
    | nil => simpa using held.1
    | cons next words =>
      have underscore : separatorsHeld false ['_'] = true := by decide
      rw [List.intercalate_cons_cons, List.append_assoc]
      exact separatorsHeld_append _ _ _ held.1 (separatorsHeld_append _ _ _ underscore tail)

/-! Lower case makes no separators and leaves what holds them where it is. -/

theorem mem_lowerChar_separator (c d : Char) (member : d ∈ lowerChar c)
    (separator : d = '-' ∨ d = ' ') : c = d := by
  rcases lowerChar_cases c with ⟨own, -⟩ | ⟨two, -⟩ | ⟨e, one, letters, inMaps, distance, -, -, -, -, code⟩
  · rw [own, List.mem_singleton] at member
    exact member.symm
  · rw [two] at member
    rcases separator with rfl | rfl <;> exact absurd member (by decide)
  · rw [one, List.mem_singleton] at member
    have low := (lowerCaseMaps_final letters inMaps).2.2.2.2
    have small : d.toNat < 0x61 := by rcases separator with rfl | rfl <;> decide
    rw [member] at small
    omega

theorem lowerAfter_of_isLowered (before : List Char) (c : Char) (text : List Char)
    (lowered : IsLowered c) : lowerAfter before (c :: text) = c :: lowerAfter (c :: before) text := by
  rw [lowerAfter, if_neg lowered.2, lowered.1]
  rfl

theorem separatorsHeld_lowerSigma (held : Bool) (before text : List Char) :
    separatorsHeld held [lowerSigma before text] = true := by
  apply separatorsHeld_of_mem
  rw [List.forall_mem_singleton]
  unfold lowerSigma
  split <;> decide

theorem separatorsHeld_lowerChar (held : Bool) (c : Char) (other : ¬(c = '-' ∨ c = ' ')) :
    separatorsHeld held (lowerChar c) = true := by
  apply separatorsHeld_of_mem
  intro d member
  constructor
  · exact fun same => other (Or.inl (same ▸ mem_lowerChar_separator c d member (Or.inl same)))
  · exact fun same => other (Or.inr (same ▸ mem_lowerChar_separator c d member (Or.inr same)))

theorem separatorsHeld_lowerAfter (held : Bool) (before text : List Char)
    (inText : separatorsHeld held text = true) :
    separatorsHeld held (lowerAfter before text) = true := by
  induction text generalizing held before with
  | nil => rfl
  | cons c text ih =>
    rw [separatorsHeld_cons] at inText
    have tail := ih (isPrepended c) (c :: before) inText.2
    -- Only letters change in lower case, and letters neither separate words nor hold anything.
    by_cases lowered : IsLowered c
    · rw [lowerAfter_of_isLowered before c text lowered, separatorsHeld_cons]
      refine ⟨fun separator => (inText.1 separator).imp_right ?_, tail⟩
      intro mark
      cases text with
      | nil => contradiction
      | cons d text =>
        rw [lowerAfter_of_isLowered _ d text (isLowered_mark d (by simpa using mark))]
        exact mark
    · have letter : ¬(c = '-' ∨ c = ' ') := by
        intro separator
        rcases separator with rfl | rfl <;> exact lowered (by decide)
      have unheld : isPrepended c = false := by
        rw [Bool.eq_false_iff]
        exact fun prepended => lowered (isLowered_prepended c prepended)
      rw [unheld] at tail
      rw [lowerAfter]
      refine separatorsHeld_append _ _ _ ?_ tail
      split
      · exact separatorsHeld_lowerSigma held before text
      · exact separatorsHeld_lowerChar held c letter

/-! Clusters hold all characters of a text, and hyphens and spaces together with what holds them. -/

theorem restAndClusters_text (seam : Seam) (text : List Char) :
    (restAndClusters seam text).1 ++ (restAndClusters seam text).2.flatMap Cluster.text = text := by
  induction text generalizing seam with
  | nil => rfl
  | cons c text ih =>
    have tail := ih (seam.next (joining c))
    simp only [restAndClusters]
    split
    · rw [List.cons_append, tail]
    · rw [List.nil_append, List.flatMap_cons, Cluster.text, List.cons_append, tail]

theorem rest_front (text : List Char) : (restAndClusters .front text).1 = [] := by
  cases text with
  | nil => rfl
  | cons c text =>
    have none : Seam.front.joins (joining c) = false := by
      cases joining c <;> rfl
    simp only [restAndClusters, none, Bool.false_eq_true, if_false]

theorem clusters_text (text : List Char) : (clusters text).flatMap Cluster.text = text := by
  have whole := restAndClusters_text .front text
  rwa [rest_front, List.nil_append] at whole

theorem joining_separator (c : Char) (separator : c = '-' ∨ c = ' ') : joining c = .other := by
  rcases separator with rfl | rfl <;> decide

/-- Behind a character of no kind a cluster goes on only with a mark. -/
theorem head?_rest (seam : Seam) (last : seam.last = .other) (text : List Char) :
    (restAndClusters seam text).1.head? = text.head?.filter isMark := by
  cases text with
  | nil => rfl
  | cons c text =>
    have joined : seam.joins (joining c) = isMark c := seam.other_joins last (joining c)
    simp only [restAndClusters, joined, List.head?_cons, Option.filter_some]
    cases isMark c <;> simp

theorem separatorsHeld_rest (seam : Seam) (text : List Char) :
    separatorsHeld (seam.last == .prepended) (restAndClusters seam text).1 = true := by
  induction text generalizing seam with
  | nil => rfl
  | cons c text ih =>
    simp only [restAndClusters]
    split
    · next joined =>
      rw [separatorsHeld_cons]
      refine ⟨fun separator => Or.inl ?_, ih (seam.next (joining c))⟩
      rwa [joining_separator c separator, Seam.joins_other] at joined
    · rfl

/-- A cluster that is no delimiter holds its hyphens and spaces. -/
theorem separatorsHeld_clusters (seam : Seam) (text : List Char) :
    ∀ cluster ∈ (restAndClusters seam text).2, cluster.isDelimiter = false →
      separatorsHeld false cluster.text = true := by
  induction text generalizing seam with
  | nil => exact List.forall_mem_nil _
  | cons c text ih =>
    have later := ih (seam.next (joining c))
    simp only [restAndClusters]
    split
    · exact later
    refine List.forall_mem_cons.mpr ⟨?_, later⟩
    intro inside
    rw [Cluster.text, separatorsHeld_cons]
    refine ⟨fun separator => Or.inr ?_, separatorsHeld_rest (seam.next (joining c)) text⟩
    have goesOn := head?_rest (seam.next (joining c)) (joining_separator c separator) text
    cases rest : (restAndClusters (seam.next (joining c)) text).1 with
    | nil =>
      rw [rest] at inside
      rcases separator with rfl | rfl <;> contradiction
    | cons d rest' =>
      rw [rest] at goesOn
      exact (Option.filter_eq_some_iff.mp goesOn.symm).2

/-- Of the clusters of a text that holds its hyphens and spaces only underscores are delimiters. -/
theorem first_of_isDelimiter (seam : Seam) (text : List Char)
    (held : separatorsHeld (seam.last == .prepended) text = true) :
    ∀ cluster ∈ (restAndClusters seam text).2, cluster.isDelimiter = true →
      cluster.first = '_' := by
  induction text generalizing seam with
  | nil => exact List.forall_mem_nil _
  | cons c text ih =>
    rw [separatorsHeld_cons] at held
    have later := ih (seam.next (joining c)) held.2
    simp only [restAndClusters]
    split
    · exact later
    next apart =>
    refine List.forall_mem_cons.mpr ⟨?_, later⟩
    intro delimiter
    simp only [Cluster.isDelimiter, Bool.and_eq_true, Bool.or_eq_true, beq_iff_eq,
      List.isEmpty_iff, or_assoc] at delimiter
    rcases delimiter.2 with underscore | separator
    · exact underscore
    -- A sign before the separator would have joined it, and a mark after it would be in its cluster.
    have goesOn := head?_rest (seam.next (joining c)) (joining_separator c separator) text
    rcases held.1 separator with prepended | mark
    · rw [joining_separator c separator, Seam.joins_other] at apart
      exact absurd prepended apart
    · cases text with
      | nil => contradiction
      | cons d text =>
        have marked : isMark d = true := mark
        rw [delimiter.1, List.head?_cons, Option.filter_some, if_pos marked] at goesOn
        contradiction

end RecordSql.Name
