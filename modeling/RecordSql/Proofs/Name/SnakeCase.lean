import RecordSql.Proofs.Name.Separator

/-!
Snake case is reached in one step. A text in snake case has no capitals, and every hyphen or space
that is left in it is held; such a text is divided at its underscores only, and lower case and the
underscores between the words give it back.
-/

namespace RecordSql.Name
open Unicode

/-- A text in snake case. -/
structure IsSnake (text : List Char) : Prop where
  lowered : ∀ c ∈ text, IsLowered c
  held : separatorsHeld false text = true

theorem IsSnake.append {front back : List Char} (inFront : IsSnake front) (inBack : IsSnake back) :
    IsSnake (front ++ back) where
  lowered := List.forall_mem_append.mpr ⟨inFront.lowered, inBack.lowered⟩
  held := separatorsHeld_append false front back inFront.held inBack.held

theorem IsSnake.front {front back : List Char} (whole : IsSnake (front ++ back))
    (plain : back.head?.any isMark = false) : IsSnake front where
  lowered := (List.forall_mem_append.mp whole.lowered).1
  held := separatorsHeld_front false front back whole.held plain

/-! Words joined by a separator. -/

theorem mem_intercalate (separator : List Char) (words : List (List Char)) {c : Char}
    (member : c ∈ separator.intercalate words) : c ∈ separator ∨ ∃ word ∈ words, c ∈ word := by
  induction words with
  | nil => simp at member
  | cons word words ih =>
    cases words with
    | nil => exact Or.inr ⟨word, List.mem_cons_self .., by simpa using member⟩
    | cons next words =>
      rw [List.intercalate_cons_cons, List.mem_append, List.mem_append] at member
      rcases member with (inWord | inSeparator) | inRest
      · exact Or.inr ⟨word, List.mem_cons_self .., inWord⟩
      · exact Or.inl inSeparator
      · rcases ih inRest with inSeparator | ⟨other, inWords, inOther⟩
        · exact Or.inl inSeparator
        · exact Or.inr ⟨other, List.mem_cons_of_mem word inWords, inOther⟩

theorem mem_intercalate_of_mem (separator : List Char) (words : List (List Char))
    (word : List Char) (inWords : word ∈ words) {c : Char} (member : c ∈ word) :
    c ∈ separator.intercalate words := by
  induction words with
  | nil => contradiction
  | cons first words ih =>
    cases words with
    | nil =>
      rw [List.mem_singleton] at inWords
      simpa [← inWords] using member
    | cons next words =>
      rw [List.intercalate_cons_cons, List.mem_append, List.mem_append]
      rcases List.mem_cons.mp inWords with rfl | later
      · exact Or.inl (Or.inl member)
      · exact Or.inr (ih later)

/-! Words. -/

theorem mem_splitWords (text : List Cluster) (word : List Char)
    (inWords : word ∈ (splitWords text).1 :: (splitWords text).2) (c : Char) (member : c ∈ word) :
    ∃ cluster ∈ text, c ∈ cluster.text := by
  induction text generalizing word with
  | nil =>
    rw [splitWords, List.mem_singleton] at inWords
    rw [inWords] at member
    contradiction
  | cons cluster text ih =>
    have later : ∀ other ∈ (splitWords text).1 :: (splitWords text).2, c ∈ other →
        ∃ found ∈ cluster :: text, c ∈ found.text := by
      intro other inOthers inOther
      obtain ⟨found, inText, inFound⟩ := ih other inOthers inOther
      exact ⟨found, List.mem_cons_of_mem cluster inText, inFound⟩
    have own : c ∈ cluster.text → ∃ found ∈ cluster :: text, c ∈ found.text :=
      fun inCluster => ⟨cluster, List.mem_cons_self .., inCluster⟩
    simp only [splitWords] at inWords
    split at inWords
    · rcases List.mem_cons.mp inWords with rfl | inRest
      · contradiction
      · exact later word inRest member
    · split at inWords
      · rcases List.mem_cons.mp inWords with rfl | inRest
        · exact own member
        · exact later word inRest member
      · rcases List.mem_cons.mp inWords with rfl | inRest
        · rcases List.mem_append.mp member with inCluster | inWord
          · exact own inCluster
          · exact later _ (List.mem_cons_self ..) inWord
        · exact later word (List.mem_cons_of_mem _ inRest) member

theorem mem_words (text word : List Char) (inWords : word ∈ words text) (c : Char)
    (member : c ∈ word) : c ∈ text := by
  obtain ⟨cluster, found, inCluster⟩ := mem_splitWords (clusters text) word inWords c member
  rw [← clusters_text text]
  exact List.mem_flatMap.mpr ⟨cluster, found, inCluster⟩

theorem lowerText_ascii_word (text : List Char) (ascii : ∀ c ∈ text, c.toNat < 128)
    (word : List Char) (inWords : word ∈ words text) : lowerText word = word.map Char.toLower :=
  lowerText_ascii word (fun c member => ascii c (mem_words text word inWords c member))

theorem separatorsHeld_splitWords (text : List Cluster)
    (held : ∀ cluster ∈ text, cluster.isDelimiter = false →
      separatorsHeld false cluster.text = true) :
    ∀ word ∈ (splitWords text).1 :: (splitWords text).2, separatorsHeld false word = true := by
  induction text with
  | nil => exact List.forall_mem_singleton.mpr rfl
  | cons cluster text ih =>
    rw [List.forall_mem_cons] at held
    have later := ih held.2
    simp only [splitWords]
    split
    · exact List.forall_mem_cons.mpr ⟨rfl, later⟩
    · next inside =>
      have own := held.1 (Bool.eq_false_iff.mpr inside)
      split
      · exact List.forall_mem_cons.mpr ⟨own, later⟩
      · have first := later _ (List.mem_cons_self ..)
        exact List.forall_mem_cons.mpr ⟨separatorsHeld_append _ _ _ own first,
          fun other member => later other (List.mem_cons_of_mem _ member)⟩

theorem isSnake_snakeText (text : List Char) : IsSnake (snakeText text) := by
  constructor
  · intro c member
    rcases mem_intercalate _ _ member with underscore | ⟨word, inWords, inWord⟩
    · rw [List.mem_singleton] at underscore
      rw [underscore]
      decide
    · obtain ⟨source, -, rfl⟩ := List.mem_map.mp inWords
      exact isLowered_lowerText source c inWord
  · apply separatorsHeld_intercalate
    intro word inWords
    obtain ⟨source, member, rfl⟩ := List.mem_map.mp inWords
    exact separatorsHeld_lowerAfter false [] source
      (separatorsHeld_splitWords (clusters text) (separatorsHeld_clusters .front text) source member)

/-- The words of a text with underscores between them, and every character mapped by itself. -/
def joinedWords (f : Char → Char) (text : List Cluster) : List Char :=
  ['_'].intercalate (((splitWords text).1 :: (splitWords text).2).map (List.map f))

/-- A delimiter gives way to an underscore, and an underscore follows a cluster that ends a word. -/
theorem joinedWords_cons (f : Char → Char) (cluster : Cluster) (text : List Cluster) :
    joinedWords f (cluster :: text) =
      if cluster.isDelimiter then '_' :: joinedWords f text
      else cluster.text.map f ++
        if endsWordBefore cluster text then '_' :: joinedWords f text else joinedWords f text := by
  simp only [joinedWords, splitWords]
  split
  · rfl
  · split
    · rw [List.map_cons, List.map_cons, List.intercalate_cons_cons, List.append_assoc]
      rfl
    · cases (splitWords text).2 with
      | nil => simp
      | cons next rest => simp [List.append_assoc]

theorem intercalate_splitWords (text : List Cluster)
    (small : ∀ cluster ∈ text, cluster.isUpper = false)
    (underscores : ∀ cluster ∈ text, cluster.isDelimiter = true → cluster.first = '_') :
    ['_'].intercalate ((splitWords text).1 :: (splitWords text).2) = text.flatMap Cluster.text := by
  have whole : joinedWords id text = text.flatMap Cluster.text := by
    induction text with
    | nil => rfl
    | cons cluster text ih =>
      have stays : endsWordBefore cluster text = false := by
        cases text with
        | nil => rfl
        | cons next rest =>
          rw [endsWordBefore, small next (List.mem_cons_of_mem cluster (List.mem_cons_self ..))]
          rfl
      have later := ih (fun other member => small other (List.mem_cons_of_mem cluster member))
        (fun other member => underscores other (List.mem_cons_of_mem cluster member))
      rw [joinedWords_cons, stays, later, List.flatMap_cons, List.map_id]
      split
      · next delimiter =>
        have first := underscores cluster (List.mem_cons_self ..) delimiter
        simp only [Cluster.isDelimiter, Bool.and_eq_true, List.isEmpty_iff] at delimiter
        rw [Cluster.text, first, delimiter.1]
        rfl
      · rfl
  simpa only [joinedWords, List.map_id_fun, List.map_id, id] using whole

theorem snakeText_of_isSnake (text : List Char) (snake : IsSnake text) : snakeText text = text := by
  have small : ∀ cluster ∈ clusters text, cluster.isUpper = false := by
    intro cluster member
    have inText : ∀ c ∈ cluster.text, c ∈ text := by
      intro c inCluster
      rw [← clusters_text text]
      exact List.mem_flatMap.mpr ⟨cluster, member, inCluster⟩
    have noChange : cluster.text.any changesInLowerCase = false := by
      rw [List.any_eq_false]
      intro c inCluster
      simp [changesInLowerCase, (snake.lowered c (inText c inCluster)).1]
    rw [Cluster.isUpper, noChange, Bool.and_false]
  have whole : ['_'].intercalate (words text) = text :=
    (intercalate_splitWords (clusters text) small (first_of_isDelimiter .front text snake.held)).trans
      (clusters_text text)
  have kept : (words text).map lowerText = words text := by
    rw [List.map_congr_left (g := id), List.map_id]
    intro word member
    apply lowerText_lowered
    intro c inWord
    have inside := mem_intercalate_of_mem ['_'] (words text) word member inWord
    rw [whole] at inside
    exact snake.lowered c inside
  rw [snakeText, kept, whole]

theorem snakeText_snakeText (text : List Char) : snakeText (snakeText text) = snakeText text :=
  snakeText_of_isSnake _ (isSnake_snakeText text)

end RecordSql.Name
