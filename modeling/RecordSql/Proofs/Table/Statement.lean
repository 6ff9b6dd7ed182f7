import RecordSql.Proofs.Table.Column
import RecordSql.Table.Specification

/-!
The statements of a table. A statement is told apart by the word after `CREATE`, the lines of a
table by the comma or the bracket after them, and the statements by the line breaks between them.
-/

namespace RecordSql

namespace Constraint

def line (constraint : Constraint) : Line where
  name := "FOREIGN".toList
  type := "KEY".toList
  phrases := [.key constraint.column.toList,
    .references constraint.references.toList constraint.onDelete]

structure Valid (constraint : Constraint) : Prop where
  column : IsPlain constraint.column
  references : IsPlain constraint.references

theorem toList_sql (constraint : Constraint) : constraint.sql.toList = constraint.line.text := by
  have front : "FOREIGN KEY (".toList = "FOREIGN".toList ++ ' ' :: ("KEY".toList ++ " (".toList) := by
    decide
  have middle : ") REFERENCES ".toList = [')'] ++ " REFERENCES ".toList := by decide
  unfold sql line Line.text
  rw [String.toList_append, String.toList_append, String.toList_append, String.toList_append,
    String.toList_append, front, middle, List.flatMap_cons, List.flatMap_cons, List.flatMap_nil]
  unfold Phrase.text
  simp only [List.append_assoc, List.cons_append, List.append_nil]

theorem valid_line {constraint : Constraint} (valid : constraint.Valid) :
    constraint.line.Valid := by
  have words : "FOREIGN".toList ≠ [] ∧ "FOREIGN".toList.all isNameChar = true ∧
      "KEY".toList.all isNameChar = true := by decide
  exact ⟨words.1, words.2.1, words.2.2, List.forall_mem_cons.mpr ⟨valid.column.2,
    List.forall_mem_cons.mpr ⟨valid.references.2, List.forall_mem_nil _⟩⟩⟩

theorem line_injective {left right : Constraint} (same : left.line = right.line) :
    left = right := by
  have phrases : [Phrase.key left.column.toList,
      .references left.references.toList left.onDelete] =
      [.key right.column.toList, .references right.references.toList right.onDelete] :=
    congrArg Line.phrases same
  simp only [List.cons.injEq, Phrase.key.injEq, Phrase.references.injEq, String.toList_inj,
    and_true] at phrases
  obtain ⟨leftColumn, leftReferences, leftOnDelete⟩ := left
  obtain ⟨rightColumn, rightReferences, rightOnDelete⟩ := right
  obtain ⟨rfl, rfl, rfl⟩ := phrases
  rfl

end Constraint

/-! The lines of a table are those of its columns and then those of its constraints. -/

def isReference : Phrase → Bool
  | .references _ _ => true
  | _ => false

def Line.isConstraint (line : Line) : Bool := line.phrases.any isReference

theorem isConstraint_column (column : ColumnLine) : column.line.isConstraint = false := by
  have declared : ∀ column : Column, column.line.isConstraint = false := by
    intro column
    unfold Line.isConstraint Column.line
    rw [List.any_append, List.any_map]
    cases column.nonNull <;> cases column.autoIncrement <;> simp [isReference]
  cases column with
  | model column => cases column <;> rfl
  | declared column => exact declared column
  | foreignKey name nonNull => exact declared _
  | primaryKey name => rfl

theorem isConstraint_constraint (constraint : Constraint) :
    constraint.line.isConstraint = true := rfl

def tableLines (columns : List ColumnLine) (constraints : List Constraint) : List Line :=
  columns.map ColumnLine.line ++ constraints.map Constraint.line

theorem filter_tableLines (columns : List ColumnLine) (constraints : List Constraint) :
    (tableLines columns constraints).filter Line.isConstraint = constraints.map Constraint.line ∧
      (tableLines columns constraints).filter (fun line => !line.isConstraint) =
        columns.map ColumnLine.line := by
  have inColumns : ∀ line ∈ columns.map ColumnLine.line, line.isConstraint = false := by
    intro line member
    obtain ⟨column, -, rfl⟩ := List.mem_map.mp member
    exact isConstraint_column column
  have inConstraints : ∀ line ∈ constraints.map Constraint.line, line.isConstraint = true := by
    intro line member
    obtain ⟨constraint, -, rfl⟩ := List.mem_map.mp member
    exact isConstraint_constraint constraint
  constructor
  · rw [tableLines, List.filter_append, List.filter_eq_nil_iff.mpr ?_,
      List.filter_eq_self.mpr inConstraints, List.nil_append]
    exact fun line member => by rw [inColumns line member]; exact Bool.false_ne_true
  · rw [tableLines, List.filter_append, List.filter_eq_self.mpr ?_, List.filter_eq_nil_iff.mpr ?_,
      List.append_nil]
    · exact fun line member => by rw [inConstraints line member]; exact Bool.false_ne_true
    · exact fun line member => by rw [inColumns line member]; rfl

theorem constraints_of_tableLines {left right : List ColumnLine} {first second : List Constraint}
    (same : tableLines left first = tableLines right second) : first = second := by
  have filtered := congrArg (List.filter Line.isConstraint) same
  rw [(filter_tableLines left first).1, (filter_tableLines right second).1] at filtered
  exact List.map_injective_iff.mpr (fun _ _ => Constraint.line_injective) filtered

theorem columns_of_tableLines {left right : List ColumnLine} {first second : List Constraint}
    (leftValid : ∀ column ∈ left, column.Valid) (rightValid : ∀ column ∈ right, column.Valid)
    (same : tableLines left first = tableLines right second) :
    left.map ColumnLine.reading = right.map ColumnLine.reading := by
  have lines := congrArg (List.filter (fun line => !line.isConstraint)) same
  rw [(filter_tableLines left first).2, (filter_tableLines right second).2] at lines
  clear same
  induction left generalizing right with
  | nil =>
    cases right with
    | nil => rfl
    | cons column right => simp at lines
  | cons column left ih =>
    cases right with
    | nil => simp at lines
    | cons column' right =>
      rw [List.forall_mem_cons] at leftValid rightValid
      simp only [List.map_cons, List.cons.injEq] at lines ⊢
      exact ⟨ColumnLine.reading_of_line leftValid.1 rightValid.1 lines.1,
        ih leftValid.2 rightValid.2 lines.2⟩

theorem head?_append {front rest : List Char} {c : Char} (head : front.head? = some c) :
    (front ++ rest).head? = some c := by
  rw [List.head?_append, head]
  rfl

theorem lines_apart : TellsApart (fun lines : List Line => ∀ line ∈ lines, line.Valid)
    (fun lines => " ,\n    ".toList.intercalate (lines.map Line.text))
    (fun rest => rest.head? = some '\n') := by
  refine TellsApart.intercalate _ Line.apart ?_
    (fun rest ends => Or.inr (List.head?_eq_some_iff.mp ends)) ?_ ?_
  · exact fun line rest _ => Or.inl ⟨_, rfl⟩
  · intro line rest another _ ends same
    rw [← same] at ends
    exact absurd ((head?_append (c := ' ') (by decide)).symm.trans ends) (by decide)
  · intro line rest another valid ends same
    rw [← same] at ends
    obtain ⟨c, name, begin⟩ := List.exists_cons_of_ne_nil valid.nonempty
    have inName := valid.name
    rw [begin, List.all_cons, Bool.and_eq_true] at inName
    unfold Line.text at ends
    rw [begin] at ends
    rw [Option.some.inj ends] at inName
    exact absurd inName.1 (by decide)

/-! Statements. -/

/-- The word after `CREATE`. -/
inductive Keyword where
  | table
  | trigger
  | unique
  | index
deriving DecidableEq

def Keyword.text : Keyword → List Char
  | table => "TABLE".toList
  | trigger => "TRIGGER".toList
  | unique => "UNIQUE".toList
  | index => "INDEX".toList

theorem Keyword.text_plain (keyword : Keyword) : keyword.text.all isNameChar = true := by
  cases keyword <;> decide

theorem Keyword.text_injective {left right : Keyword} (same : left.text = right.text) :
    left = right := by
  revert same
  cases left <;> cases right <;> decide

inductive Statement where
  | table (name : String) (lines : List Line)
  | trigger (renewal : UpdateTrigger)
  | index (entry : Index)
deriving DecidableEq

namespace Statement

def keyword : Statement → Keyword
  | table _ _ => .table
  | trigger _ => .trigger
  | index entry => if entry.unique then .unique else .index

def triggerTail (renewal : UpdateTrigger) : List Char :=
  (renewal.table ++ "_updated_at").toList ++ (" AFTER UPDATE ON ".toList ++
    (renewal.table.toList ++
      (" WHEN old.updated_at < CURRENT_TIMESTAMP BEGIN\n    UPDATE ".toList ++
        (renewal.table.toList ++
          " SET updated_at = CURRENT_TIMESTAMP WHERE id = old.id;\nEND;".toList))))

def indexTail (entry : Index) : List Char :=
  entry.name.toList ++ (" ON ".toList ++ (entry.table.toList ++ (" (".toList ++
    (entry.column.toList ++ ");".toList))))

/-- The text after the keyword and a space. -/
def tail : Statement → List Char
  | table name lines =>
      name.toList ++ ("(\n    ".toList ++
        (" ,\n    ".toList.intercalate (lines.map Line.text) ++ "\n);".toList))
  | trigger renewal => triggerTail renewal
  | index entry => if entry.unique then "INDEX ".toList ++ indexTail entry else indexTail entry

def text (statement : Statement) : List Char :=
  "CREATE ".toList ++ (statement.keyword.text ++ (' ' :: statement.tail))

def Valid : Statement → Prop
  | table name lines => IsPlain name ∧ ∀ line ∈ lines, line.Valid
  | trigger renewal => IsPlain renewal.table
  | index entry => IsPlain entry.table ∧ IsPlain entry.column

theorem stops_append {front rest : List Char}
    (stops : front.head?.any (fun c => !isNameChar c) = true) :
    (front ++ rest).head?.all (fun c => !isNameChar c) = true := by
  cases front with
  | nil => contradiction
  | cons c front => exact stops

/-- Names are told apart before a character that is not in a name. -/
theorem name_cancel {left right : String} {rest another : List Char} (leftPlain : IsPlain left)
    (rightPlain : IsPlain right) (restStops : rest.head?.all (fun c => !isNameChar c) = true)
    (anotherStops : another.head?.all (fun c => !isNameChar c) = true)
    (same : left.toList ++ rest = right.toList ++ another) : left = right ∧ rest = another := by
  obtain ⟨names, rests⟩ := TellsApart.word isNameChar left.toList right.toList rest another
    leftPlain.2 rightPlain.2 restStops anotherStops same
  exact ⟨String.toList_inj.mp names, rests⟩

theorem indexTail_cancel {left right : Index} {rest another : List Char}
    (leftValid : IsPlain left.table ∧ IsPlain left.column)
    (rightValid : IsPlain right.table ∧ IsPlain right.column)
    (same : indexTail left ++ rest = indexTail right ++ another) :
    left.table = right.table ∧ left.column = right.column ∧ rest = another := by
  have named : ∀ entry : Index, IsPlain entry.table → IsPlain entry.column →
      entry.name.toList.all isNameChar = true := by
    intro entry table column
    have start : "idx_".toList.all isNameChar = true := by decide
    have middle : "_".toList.all isNameChar = true := by decide
    unfold Index.name
    rw [String.toList_append, String.toList_append, String.toList_append, List.all_append,
      List.all_append, List.all_append, start, middle, table.2, column.2]
    rfl
  unfold indexTail at same
  simp only [List.append_assoc] at same
  obtain ⟨-, afterName⟩ := TellsApart.word isNameChar _ _ _ _ (named left leftValid.1 leftValid.2)
    (named right rightValid.1 rightValid.2) (stops_append (by decide)) (stops_append (by decide)) same
  obtain ⟨tables, afterTable⟩ := name_cancel leftValid.1 rightValid.1
    (stops_append (by decide)) (stops_append (by decide)) (List.append_cancel_left afterName)
  obtain ⟨columns, afterColumn⟩ := name_cancel leftValid.2 rightValid.2
    (stops_append (by decide)) (stops_append (by decide)) (List.append_cancel_left afterTable)
  exact ⟨tables, columns, List.append_cancel_left afterColumn⟩

theorem triggerTail_cancel {left right : UpdateTrigger} {rest another : List Char}
    (leftPlain : IsPlain left.table) (rightPlain : IsPlain right.table)
    (same : triggerTail left ++ rest = triggerTail right ++ another) :
    left = right ∧ rest = another := by
  have named : ∀ renewal : UpdateTrigger, IsPlain renewal.table →
      IsPlain (renewal.table ++ "_updated_at") := by
    intro renewal plain
    have last : "_updated_at".toList.all isNameChar = true := by decide
    refine ⟨fun empty => plain.1 (String.append_eq_empty_iff.mp empty).1, ?_⟩
    rw [String.toList_append, List.all_append, plain.2, last]
    rfl
  have tables : left = right := by
    unfold triggerTail at same
    simp only [List.append_assoc] at same
    obtain ⟨names, -⟩ := name_cancel (named left leftPlain) (named right rightPlain)
      (stops_append (by decide)) (stops_append (by decide)) same
    rw [← String.toList_inj, String.toList_append, String.toList_append] at names
    have same := String.toList_inj.mp (List.append_cancel_right names)
    cases left
    cases right
    exact congrArg UpdateTrigger.mk same
  subst tables
  exact ⟨rfl, List.append_cancel_left same⟩

theorem table_cancel {leftName rightName : String} {left right : List Line}
    {rest another : List Char} (leftValid : (table leftName left).Valid)
    (rightValid : (table rightName right).Valid)
    (same : (table leftName left).tail ++ rest = (table rightName right).tail ++ another) :
    table leftName left = table rightName right ∧ rest = another := by
  unfold tail at same
  simp only [List.append_assoc] at same
  obtain ⟨rfl, afterName⟩ := name_cancel leftValid.1 rightValid.1 (stops_append (by decide))
    (stops_append (by decide)) same
  obtain ⟨rfl, rests⟩ := lines_apart left right _ _ leftValid.2 rightValid.2
    (head?_append (by decide)) (head?_append (by decide)) (List.append_cancel_left afterName)
  exact ⟨rfl, List.append_cancel_left rests⟩

theorem index_cancel {left right : Index} {rest another : List Char}
    (leftValid : (index left).Valid) (rightValid : (index right).Valid)
    (keywords : (index left).keyword = (index right).keyword)
    (same : (index left).tail ++ rest = (index right).tail ++ another) :
    index left = index right ∧ rest = another := by
  obtain ⟨table, column, unique⟩ := left
  obtain ⟨table', column', unique'⟩ := right
  cases unique <;> cases unique'
  · obtain ⟨rfl, rfl, rests⟩ := indexTail_cancel leftValid rightValid same
    exact ⟨rfl, rests⟩
  · contradiction
  · contradiction
  · have behind : ∀ (entry : Index) (rest : List Char), ("INDEX ".toList ++ indexTail entry) ++ rest =
        "INDEX ".toList ++ (indexTail entry ++ rest) := fun _ _ => List.append_assoc ..
    obtain ⟨rfl, rfl, rests⟩ := indexTail_cancel leftValid rightValid
      (List.append_cancel_left ((behind _ rest).symm.trans (same.trans (behind _ another))))
    exact ⟨rfl, rests⟩

theorem keyword_index (entry : Index) :
    (index entry).keyword = .unique ∨ (index entry).keyword = .index := by
  obtain ⟨table, column, unique⟩ := entry
  cases unique
  · exact Or.inr rfl
  · exact Or.inl rfl

theorem apart : TellsApart Valid text (fun _ => True) := by
  intro one other rest another oneValid otherValid _ _ same
  unfold text at same
  simp only [List.append_assoc, List.cons_append] at same
  obtain ⟨words, afterWord⟩ := TellsApart.word isNameChar one.keyword.text other.keyword.text _ _
    one.keyword.text_plain other.keyword.text_plain rfl rfl (List.append_cancel_left same)
  have keywords := Keyword.text_injective words
  have tails : one.tail ++ rest = other.tail ++ another := (List.cons.inj afterWord).2
  cases one with
  | table name lines =>
    cases other with
    | table name' lines' => exact table_cancel oneValid otherValid tails
    | trigger renewal' => contradiction
    | index entry' => rcases keyword_index entry' with word | word <;> cases keywords.trans word
  | trigger renewal =>
    cases other with
    | table name' lines' => contradiction
    | trigger renewal' =>
      obtain ⟨rfl, rests⟩ := triggerTail_cancel oneValid otherValid tails
      exact ⟨rfl, rests⟩
    | index entry' => rcases keyword_index entry' with word | word <;> cases keywords.trans word
  | index entry =>
    cases other with
    | table name' lines' => rcases keyword_index entry with word | word <;> cases word.symm.trans keywords
    | trigger renewal' =>
      rcases keyword_index entry with word | word <;> cases word.symm.trans keywords
    | index entry' => exact index_cancel oneValid otherValid keywords tails

end Statement

end RecordSql
