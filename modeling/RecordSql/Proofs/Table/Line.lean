import RecordSql.Proofs.Apart
import RecordSql.Proofs.Sql.Quoted
import RecordSql.Table.Column

/-!
Lines of a table as two words and the phrases after them. The character behind the space at the
front of a phrase tells what kind of phrase it is, and only the operand of a default can be long.
-/

namespace RecordSql

/-- A letter, a digit or an underscore. -/
def isNameChar (c : Char) : Bool := c.isAlphanum || c == '_'

/-- A character of an operand without quotes. -/
def isBare (c : Char) : Bool := c != ' ' && c != '\n'

/-- What is computed for the identity of a row. -/
def identityExpression : String :=
  "((( strftime('%s','now') - 1563741060 ) * 100000) + (RANDOM() & 65535))"

/-- The operand of a default: a quoted literal, a word, or the identity of the row. -/
inductive IsOperand : List Char → Prop where
  | quoted (text : String) : IsOperand (Sql.quoted '"' text).toList
  | bare (c : Char) (word : List Char) (inside : (c :: word).all isBare = true)
      (first : c ≠ '"' ∧ c ≠ '(') : IsOperand (c :: word)
  | identity : IsOperand identityExpression.toList

def IsClause (clause : List Char) : Prop :=
  clause = "UNIQUE".toList ∨ ∃ operand, IsOperand operand ∧ clause = "DEFAULT ".toList ++ operand

/-- What may come after a phrase. -/
def endsPhrase (rest : List Char) : Prop := rest.head? = some ' ' ∨ rest.head? = some '\n'

theorem isBare_of_endsPhrase {rest : List Char} (ends : endsPhrase rest) :
    rest.head?.all (fun c => !isBare c) = true := by
  rcases ends with head | head <;> rw [head] <;> decide

theorem quoted_cons (text : String) (rest : List Char) :
    ∃ tail, (Sql.quoted '"' text).toList ++ rest = '"' :: tail :=
  ⟨_, by rw [Sql.toList_quoted, List.cons_append]⟩

theorem identityExpression_cons (rest : List Char) :
    ∃ tail, identityExpression.toList ++ rest = '(' :: tail := by
  obtain ⟨tail, same⟩ : ∃ tail, identityExpression.toList = '(' :: tail :=
    List.head?_eq_some_iff.mp (by decide)
  exact ⟨_, by rw [same, List.cons_append]⟩

theorem literal_apart : TellsApart (fun _ => True) (fun text => (Sql.quoted '"' text).toList)
    endsPhrase := by
  refine .of_undoes (Sql.readQuoted '"') _ _ _ ?_
  intro text rest _ ends
  refine Sql.readQuoted_quoted '"' text rest ?_
  rcases ends with head | head <;> rw [head] <;> decide

/-- The first character of an operand tells its kind. -/
theorem operand_apart : TellsApart IsOperand id endsPhrase := by
  intro one other rest another oneValid otherValid restEnds anotherEnds same
  simp only [id] at same
  cases oneValid with
  | quoted text =>
    obtain ⟨tail, head⟩ := quoted_cons text rest
    cases otherValid with
    | quoted text' =>
      obtain ⟨rfl, rests⟩ := literal_apart text text' rest another trivial trivial restEnds
        anotherEnds same
      exact ⟨rfl, rests⟩
    | bare c word inside first =>
      exact absurd (List.cons.inj (head.symm.trans same)).1.symm first.1
    | identity =>
      obtain ⟨tail', head'⟩ := identityExpression_cons another
      exact absurd (List.cons.inj (head.symm.trans (same.trans head'))).1 (by decide)
  | bare c word inside first =>
    cases otherValid with
    | quoted text =>
      obtain ⟨tail, head⟩ := quoted_cons text another
      exact absurd (List.cons.inj (same.trans head)).1 first.1
    | bare d word' inside' first' =>
      exact TellsApart.word isBare (c :: word) (d :: word') rest another inside inside'
        (isBare_of_endsPhrase restEnds) (isBare_of_endsPhrase anotherEnds) same
    | identity =>
      obtain ⟨tail, head⟩ := identityExpression_cons another
      exact absurd (List.cons.inj (same.trans head)).1 first.2
  | identity =>
    obtain ⟨tail, head⟩ := identityExpression_cons rest
    cases otherValid with
    | quoted text =>
      obtain ⟨tail', head'⟩ := quoted_cons text another
      exact absurd (List.cons.inj (head.symm.trans (same.trans head'))).1 (by decide)
    | bare c word inside first =>
      exact absurd (List.cons.inj (head.symm.trans same)).1.symm first.2
    | identity => exact ⟨rfl, List.append_cancel_left same⟩

/-! Phrases. -/

inductive Phrase where
  | clause (text : List Char)
  | notNull
  | autoIncrement
  | key (column : List Char)
  | references (table : List Char) (onDelete : OnDelete)
deriving DecidableEq

namespace Phrase

def text : Phrase → List Char
  | clause text => ' ' :: text
  | notNull => " NOT NULL".toList
  | autoIncrement => " AUTO_INCREMENT".toList
  | key column => " (".toList ++ (column ++ [')'])
  | references table onDelete =>
      " REFERENCES ".toList ++ (table ++ (" (id) ON DELETE ".toList ++ onDelete.sql.toList))

def Valid : Phrase → Prop
  | clause text => IsClause text
  | key column => column.all isNameChar = true
  | references table _ => table.all isNameChar = true
  | _ => True

/-- The character behind the space at the front of a phrase. -/
def mark : Phrase → Char
  | clause text => text.headD ' '
  | notNull => 'N'
  | autoIncrement => 'A'
  | key _ => '('
  | references _ _ => 'R'

theorem mark_clause {text : List Char} (valid : IsClause text) :
    (clause text).mark = 'U' ∨ (clause text).mark = 'D' := by
  rcases valid with rfl | ⟨operand, -, rfl⟩
  · exact Or.inl (by decide)
  · exact Or.inr rfl

theorem mark_clause_ne {clause : List Char} (valid : IsClause clause) (other : Phrase)
    (different : ∀ text, other ≠ .clause text) : (Phrase.clause clause).mark ≠ other.mark := by
  intro same
  cases other with
  | clause text => exact different text rfl
  | _ => rcases mark_clause valid with mark | mark <;> rw [mark] at same <;> simp [Phrase.mark] at same

theorem text_mark (phrase : Phrase) (valid : phrase.Valid) :
    ∃ tail, phrase.text = ' ' :: phrase.mark :: tail := by
  cases phrase with
  | clause text =>
    rcases valid with rfl | ⟨operand, -, rfl⟩
    · exact ⟨"NIQUE".toList, by decide⟩
    · exact ⟨"EFAULT ".toList ++ operand, rfl⟩
  | notNull => exact ⟨"OT NULL".toList, by decide⟩
  | autoIncrement => exact ⟨"UTO_INCREMENT".toList, by decide⟩
  | key column => exact ⟨column ++ [')'], rfl⟩
  | references table onDelete =>
    exact ⟨"EFERENCES ".toList ++ (table ++ (" (id) ON DELETE ".toList ++ onDelete.sql.toList)), rfl⟩

theorem clause_apart : TellsApart IsClause id endsPhrase := by
  intro one other rest another oneValid otherValid restEnds anotherEnds same
  simp only [id] at same
  rcases oneValid with rfl | ⟨operand, valid, rfl⟩ <;> rcases otherValid with rfl | ⟨operand', valid', rfl⟩
  · exact ⟨rfl, List.append_cancel_left same⟩
  · exact absurd (congrArg List.head? same) (by simp)
  · exact absurd (congrArg List.head? same) (by simp)
  · rw [List.append_assoc, List.append_assoc] at same
    obtain ⟨rfl, rests⟩ := operand_apart operand operand' rest another valid valid' restEnds
      anotherEnds (List.append_cancel_left same)
    exact ⟨rfl, rests⟩

theorem onDelete_cancel {left right : OnDelete} {rest another : List Char}
    (same : left.sql.toList ++ rest = right.sql.toList ++ another) :
    left = right ∧ rest = another := by
  cases left <;> cases right
  · exact ⟨rfl, List.append_cancel_left same⟩
  · exact absurd (congrArg List.head? same) (by simp [OnDelete.sql])
  · exact absurd (congrArg List.head? same) (by simp [OnDelete.sql])
  · exact ⟨rfl, List.append_cancel_left same⟩

theorem apart : TellsApart Valid text endsPhrase := by
  intro one other rest another oneValid otherValid restEnds anotherEnds same
  -- Phrases of two kinds differ at their marks, and two of one kind are told apart by their contents.
  have marks : one.mark = other.mark := by
    obtain ⟨tail, oneText⟩ := text_mark one oneValid
    obtain ⟨tail', otherText⟩ := text_mark other otherValid
    rw [oneText, otherText] at same
    exact (List.cons.inj (List.cons.inj same).2).1
  have notName : isNameChar ')' = false ∧ isNameChar ' ' = false := by decide
  cases one with
  | clause clause =>
    cases other with
    | clause clause' =>
      obtain ⟨rfl, rests⟩ := clause_apart clause clause' rest another oneValid otherValid restEnds
        anotherEnds (List.cons.inj same).2
      exact ⟨rfl, rests⟩
    | _ => exact absurd marks (mark_clause_ne oneValid _ nofun)
  | notNull =>
    cases other with
    | clause clause' => exact absurd marks.symm (mark_clause_ne otherValid _ nofun)
    | notNull => exact ⟨rfl, List.append_cancel_left same⟩
    | _ => simp [Phrase.mark] at marks
  | autoIncrement =>
    cases other with
    | clause clause' => exact absurd marks.symm (mark_clause_ne otherValid _ nofun)
    | autoIncrement => exact ⟨rfl, List.append_cancel_left same⟩
    | _ => simp [Phrase.mark] at marks
  | key column =>
    cases other with
    | clause clause' => exact absurd marks.symm (mark_clause_ne otherValid _ nofun)
    | key column' =>
      unfold text at same
      simp only [List.append_assoc] at same
      obtain ⟨rfl, rests⟩ := TellsApart.word isNameChar column column' _ _ oneValid otherValid
        (by simp [notName]) (by simp [notName]) (List.append_cancel_left same)
      exact ⟨rfl, List.append_cancel_left rests⟩
    | _ => simp [Phrase.mark] at marks
  | references table onDelete =>
    cases other with
    | clause clause' => exact absurd marks.symm (mark_clause_ne otherValid _ nofun)
    | references table' onDelete' =>
      unfold text at same
      simp only [List.append_assoc] at same
      obtain ⟨rfl, rests⟩ := TellsApart.word isNameChar table table' _ _ oneValid otherValid
        (by simp [notName]) (by simp [notName]) (List.append_cancel_left same)
      obtain ⟨rfl, tails⟩ := onDelete_cancel (List.append_cancel_left rests)
      exact ⟨rfl, tails⟩
    | _ => simp [Phrase.mark] at marks

theorem mark_ne_comma (phrase : Phrase) (valid : phrase.Valid) : phrase.mark ≠ ',' := by
  cases phrase with
  | clause text => rcases mark_clause valid with mark | mark <;> rw [mark] <;> decide
  | _ => simp [mark]

end Phrase

/-! Lines. -/

/-- What may come after a line. -/
def endsLine (rest : List Char) : Prop :=
  (∃ tail, rest = ' ' :: ',' :: tail) ∨ ∃ tail, rest = '\n' :: tail

/-- A line of a table: two words and the phrases after them. -/
structure Line where
  name : List Char
  type : List Char
  phrases : List Phrase
deriving DecidableEq

namespace Line

def text (line : Line) : List Char :=
  line.name ++ (' ' :: (line.type ++ line.phrases.flatMap Phrase.text))

structure Valid (line : Line) : Prop where
  nonempty : line.name ≠ []
  name : line.name.all isNameChar = true
  type : line.type.all isNameChar = true
  phrases : ∀ phrase ∈ line.phrases, phrase.Valid

theorem endsPhrase_of_endsLine (rest : List Char) (ends : endsLine rest) : endsPhrase rest := by
  rcases ends with ⟨tail, rfl⟩ | ⟨tail, rfl⟩
  · exact Or.inl rfl
  · exact Or.inr rfl

theorem phrase_ne_end (phrase : Phrase) (rest another : List Char) (valid : phrase.Valid)
    (ends : endsLine another) : phrase.text ++ rest ≠ another := by
  obtain ⟨tail, begin⟩ := phrase.text_mark valid
  rw [begin]
  rcases ends with ⟨tail', rfl⟩ | ⟨tail', rfl⟩
  · intro same
    exact phrase.mark_ne_comma valid (List.cons.inj (List.cons.inj same).2).1
  · exact fun same => absurd (List.cons.inj same).1 (by decide)

theorem phrases_apart : TellsApart (fun phrases : List Phrase => ∀ phrase ∈ phrases, phrase.Valid)
    (fun phrases => phrases.flatMap Phrase.text) endsLine := by
  refine Phrase.apart.flatMap ?_ endsPhrase_of_endsLine phrase_ne_end
  intro phrase rest valid
  obtain ⟨tail, begin⟩ := phrase.text_mark valid
  rw [begin]
  exact Or.inl rfl

theorem head?_phrases (phrases : List Phrase) (rest : List Char)
    (valid : ∀ phrase ∈ phrases, phrase.Valid) (ends : endsLine rest) :
    endsPhrase (phrases.flatMap Phrase.text ++ rest) := by
  cases phrases with
  | nil => exact endsPhrase_of_endsLine rest ends
  | cons phrase phrases =>
    obtain ⟨tail, begin⟩ := phrase.text_mark (valid phrase (List.mem_cons_self ..))
    rw [List.flatMap_cons, begin]
    exact Or.inl rfl

theorem apart : TellsApart Valid text endsLine := by
  intro one other rest another oneValid otherValid restEnds anotherEnds same
  obtain ⟨name, type, phrases⟩ := one
  obtain ⟨name', type', phrases'⟩ := other
  have stops : ∀ rest, endsPhrase rest → rest.head?.all (fun c => !isNameChar c) = true := by
    intro rest ends
    rcases ends with head | head <;> rw [head] <;> decide
  simp only [text, List.append_assoc, List.cons_append] at same
  obtain ⟨rfl, afterName⟩ := TellsApart.word isNameChar name name' _ _ oneValid.name otherValid.name
    (stops _ (Or.inl rfl)) (stops _ (Or.inl rfl)) same
  obtain ⟨rfl, afterType⟩ := TellsApart.word isNameChar type type' _ _ oneValid.type otherValid.type
    (stops _ (head?_phrases phrases rest oneValid.phrases restEnds))
    (stops _ (head?_phrases phrases' another otherValid.phrases anotherEnds))
    (List.cons.inj afterName).2
  obtain ⟨rfl, rests⟩ := phrases_apart phrases phrases' rest another oneValid.phrases
    otherValid.phrases restEnds anotherEnds afterType
  exact ⟨rfl, rests⟩

end Line

end RecordSql
