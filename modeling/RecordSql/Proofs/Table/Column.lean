import RecordSql.Proofs.Table.Line

/-!
The lines of columns and constraints. A line determines what it was written for, except that the key
of a relation is written like any other integer column.
-/

namespace RecordSql

/-- A name of letters, digits and underscores. -/
def IsPlain (name : String) : Prop := name ≠ "" ∧ name.toList.all isNameChar = true

instance (name : String) : Decidable (IsPlain name) := inferInstanceAs (Decidable (_ ∧ _))

theorem IsPlain.toList_ne_nil {name : String} (plain : IsPlain name) : name.toList ≠ [] :=
  fun empty => plain.1 (String.toList_eq_nil_iff.mp empty)

/-- A clause that a directive can ask for. -/
def IsDeclaredClause (clause : String) : Prop :=
  clause = "UNIQUE" ∨ ∃ operand : String, IsOperand operand.toList ∧
    operand.toList.head? ≠ some '(' ∧ operand.toList.head? ≠ some 'C' ∧ clause = "DEFAULT " ++ operand

theorem isClause_of_declared {clause : String} (declared : IsDeclaredClause clause) :
    IsClause clause.toList := by
  rcases declared with rfl | ⟨operand, valid, -, -, rfl⟩
  · exact Or.inl rfl
  · exact Or.inr ⟨operand.toList, valid, String.toList_append⟩

namespace Column

def line (column : Column) : Line where
  name := column.name.toList
  type := column.sqlType.toList
  phrases := column.clauses.map (fun clause => .clause clause.toList) ++
    ((if column.nonNull then [.notNull] else []) ++
      (if column.autoIncrement then [.autoIncrement] else []))

structure Valid (column : Column) : Prop where
  name : IsPlain column.name
  sqlType : IsPlain column.sqlType
  clauses : ∀ clause ∈ column.clauses, IsDeclaredClause clause

theorem cons_intercalate (first : List Char) (others : List (List Char)) :
    ' ' :: [' '].intercalate (first :: others) = (first :: others).flatMap (' ' :: ·) := by
  induction others generalizing first with
  | nil => simp
  | cons next others ih =>
    rw [List.intercalate_cons_cons, List.append_assoc, List.singleton_append, ih next,
      List.flatMap_cons]
    rfl

theorem toList_clauses (clauses : List String) :
    (if clauses.isEmpty then "" else " " ++ " ".intercalate clauses).toList =
      (clauses.map (fun clause => Phrase.clause clause.toList)).flatMap Phrase.text := by
  cases clauses with
  | nil => rfl
  | cons first others =>
    have space : " ".toList = [' '] := by decide
    rw [List.isEmpty_cons, if_neg Bool.false_ne_true, String.toList_append,
      String.toList_intercalate, space, List.singleton_append, List.map_cons, cons_intercalate,
      ← List.map_cons, List.flatMap_map, List.flatMap_map]
    rfl

theorem toList_sql (column : Column) : column.sql.toList = column.line.text := by
  have nonNull : (if column.nonNull then " NOT NULL" else "").toList =
      (if column.nonNull then [Phrase.notNull] else []).flatMap Phrase.text := by
    cases column.nonNull <;> decide
  have autoIncrement : (if column.autoIncrement then " " ++ autoIncrementKeyword else "").toList =
      (if column.autoIncrement then [Phrase.autoIncrement] else []).flatMap Phrase.text := by
    cases column.autoIncrement <;> decide
  simp only [sql, String.toList_append, toList_clauses, nonNull, autoIncrement, Line.text, line,
    List.flatMap_append, List.append_assoc]
  rfl

theorem valid_line {column : Column} (valid : column.Valid) : column.line.Valid := by
  refine ⟨valid.name.toList_ne_nil, valid.name.2, valid.sqlType.2, ?_⟩
  intro phrase member
  simp only [line, List.mem_append, List.mem_map] at member
  rcases member with ⟨clause, inClauses, rfl⟩ | inNull | inAuto
  · exact isClause_of_declared (valid.clauses clause inClauses)
  · split at inNull <;> simp_all [Phrase.Valid]
  · split at inAuto <;> simp_all [Phrase.Valid]

def isClausePhrase : Phrase → Bool
  | .clause _ => true
  | _ => false

theorem filter_line (column : Column) : column.line.phrases.filter isClausePhrase =
    column.clauses.map (fun clause => .clause clause.toList) := by
  have clauses : (column.clauses.map (fun clause => Phrase.clause clause.toList)).filter
      isClausePhrase = column.clauses.map (fun clause => Phrase.clause clause.toList) := by
    rw [List.filter_eq_self]
    intro phrase member
    obtain ⟨clause, -, rfl⟩ := List.mem_map.mp member
    rfl
  rw [line, List.filter_append, clauses]
  cases column.nonNull <;> cases column.autoIncrement <;> simp [isClausePhrase]

theorem line_injective {left right : Column} (same : left.line = right.line) : left = right := by
  have clauses : left.clauses = right.clauses := by
    have filtered := congrArg (fun line => line.phrases.filter isClausePhrase) same
    rw [filter_line, filter_line] at filtered
    exact List.map_injective_iff.mpr
      (fun one other equal => String.toList_inj.mp (Phrase.clause.inj equal)) filtered
  obtain ⟨leftName, leftType, leftClauses, leftNull, leftAuto⟩ := left
  obtain ⟨rightName, rightType, rightClauses, rightNull, rightAuto⟩ := right
  cases clauses
  simp only [line, Line.mk.injEq, String.toList_inj, List.append_cancel_left_eq] at same
  obtain ⟨rfl, rfl, flags⟩ := same
  revert flags
  cases leftNull <;> cases rightNull <;> cases leftAuto <;> cases rightAuto <;> simp

end Column

/-! The lines of the default model. -/

namespace ModelColumn

/-- The default of a column of the model. -/
def operand : ModelColumn → String
  | identity => identityExpression
  | _ => "CURRENT_TIMESTAMP"

def line (column : ModelColumn) : Line where
  name := column.name.toList
  type := (match column with | identity => "INTEGER" | _ => "DATETIME").toList
  phrases := (match column with | identity => [.clause "UNIQUE".toList] | _ => []) ++
    [.clause ("DEFAULT ".toList ++ column.operand.toList), .notNull]

theorem toList_sql (column : ModelColumn) : column.sql.toList = column.line.text := by
  cases column <;> decide +kernel

theorem isOperand_operand (column : ModelColumn) : IsOperand column.operand.toList := by
  cases column with
  | identity => exact .identity
  | _ => exact .bare 'C' "URRENT_TIMESTAMP".toList (by decide) (by decide)

theorem valid_line (column : ModelColumn) : column.line.Valid := by
  have default : IsClause ("DEFAULT ".toList ++ column.operand.toList) :=
    Or.inr ⟨_, isOperand_operand column, rfl⟩
  have last : ∀ phrase ∈ [Phrase.clause ("DEFAULT ".toList ++ column.operand.toList), .notNull],
      phrase.Valid :=
    List.forall_mem_cons.mpr ⟨default, List.forall_mem_cons.mpr ⟨trivial, List.forall_mem_nil _⟩⟩
  refine ⟨by cases column <;> decide, by cases column <;> decide, by cases column <;> decide, ?_⟩
  cases column with
  | identity => exact List.forall_mem_cons.mpr ⟨Or.inl rfl, last⟩
  | _ => exact last

/-- No directive asks for the default of a column of the model. -/
theorem operand_not_declared (column : ModelColumn) (clause : String)
    (declared : IsDeclaredClause clause) :
    clause.toList ≠ "DEFAULT ".toList ++ column.operand.toList := by
  intro same
  rcases declared with rfl | ⟨operand, -, notIdentity, notTimestamp, rfl⟩
  · exact absurd (congrArg List.head? same) (by simp)
  · rw [String.toList_append] at same
    rw [List.append_cancel_left same] at notIdentity notTimestamp
    cases column with
    | identity => exact notIdentity (by decide)
    | _ => exact notTimestamp (by decide)

end ModelColumn

/-! The lines of all columns. -/

namespace ColumnLine

/-- A column as it is read: the key of a relation is an integer column. -/
def reading : ColumnLine → ColumnLine
  | foreignKey name nonNull => declared { name := name, sqlType := "INTEGER", nonNull := nonNull }
  | line => line

def line : ColumnLine → Line
  | model column => column.line
  | declared column => column.line
  | foreignKey name nonNull =>
      Column.line { name := name, sqlType := "INTEGER", nonNull := nonNull }
  | primaryKey name => ⟨"PRIMARY".toList, "KEY".toList, [.key name.toList]⟩

def Valid : ColumnLine → Prop
  | model _ => True
  | declared column => column.Valid
  | foreignKey name _ => IsPlain name
  | primaryKey name => IsPlain name

theorem foreignKey_sql (name : String) (nonNull : Bool) : (foreignKey name nonNull).sql =
    Column.sql { name := name, sqlType := "INTEGER", nonNull := nonNull } := by
  have integer : " " ++ "INTEGER" = " INTEGER" := by decide
  unfold sql Column.sql
  simp only [String.append_assoc, ← integer, List.isEmpty_nil, if_true, Bool.false_eq_true,
    if_false, String.append_empty]

theorem toList_sql (line : ColumnLine) : line.sql.toList = line.line.text := by
  cases line with
  | model column => exact column.toList_sql
  | declared column => exact column.toList_sql
  | foreignKey name nonNull =>
    exact (congrArg String.toList (foreignKey_sql name nonNull)).trans (Column.toList_sql _)
  | primaryKey name =>
    have front : "PRIMARY KEY (".toList = "PRIMARY".toList ++ ' ' :: ("KEY".toList ++ " (".toList) := by
      decide
    have last : ")".toList = [')'] := by decide
    unfold sql line Line.text
    rw [String.toList_append, String.toList_append, front, last, List.flatMap_cons,
      List.flatMap_nil]
    unfold Phrase.text
    simp only [List.append_assoc, List.cons_append, List.append_nil]

theorem valid_foreignKey {name : String} (nonNull : Bool) (plain : IsPlain name) :
    Column.Valid { name := name, sqlType := "INTEGER", nonNull := nonNull } where
  name := plain
  sqlType := (by decide : IsPlain "INTEGER")
  clauses := List.forall_mem_nil _

/-- A column of the model, a declared column or a primary key, and how it is read. -/
theorem cases_line {line : ColumnLine} (valid : line.Valid) :
    (∃ column, line.reading = .model column ∧ line.line = column.line) ∨
      (∃ column : Column, column.Valid ∧ line.reading = .declared column ∧
        line.line = column.line) ∨
      ∃ name, IsPlain name ∧ line.reading = .primaryKey name ∧
        line.line = ⟨"PRIMARY".toList, "KEY".toList, [.key name.toList]⟩ := by
  cases line with
  | model column => exact Or.inl ⟨column, rfl, rfl⟩
  | declared column => exact Or.inr (Or.inl ⟨column, valid, rfl, rfl⟩)
  | foreignKey name nonNull =>
    exact Or.inr (Or.inl ⟨_, valid_foreignKey nonNull valid, rfl, rfl⟩)
  | primaryKey name => exact Or.inr (Or.inr ⟨name, valid, rfl, rfl⟩)

theorem valid_line {line : ColumnLine} (valid : line.Valid) : line.line.Valid := by
  obtain ⟨column, -, same⟩ | ⟨column, columnValid, -, same⟩ | ⟨name, plain, -, same⟩ :=
    cases_line valid
  · exact same ▸ column.valid_line
  · exact same ▸ Column.valid_line columnValid
  · have words : "PRIMARY".toList ≠ [] ∧ "PRIMARY".toList.all isNameChar = true ∧
        "KEY".toList.all isNameChar = true := by decide
    rw [same]
    exact ⟨words.1, words.2.1, words.2.2,
      List.forall_mem_cons.mpr ⟨plain.2, List.forall_mem_nil _⟩⟩

theorem model_ne_declared (model : ModelColumn) (column : Column) (valid : column.Valid) :
    model.line ≠ column.line := by
  intro same
  have inPhrases : Phrase.clause ("DEFAULT ".toList ++ model.operand.toList) ∈ model.line.phrases := by
    cases model <;> simp [ModelColumn.line]
  rw [same] at inPhrases
  have inClauses : Phrase.clause ("DEFAULT ".toList ++ model.operand.toList) ∈
      column.line.phrases.filter Column.isClausePhrase := List.mem_filter.mpr ⟨inPhrases, rfl⟩
  rw [Column.filter_line, List.mem_map] at inClauses
  obtain ⟨clause, member, equal⟩ := inClauses
  exact model.operand_not_declared clause (valid.clauses clause member) (Phrase.clause.inj equal)

theorem key_not_mem_declared (column : Column) (name : List Char) :
    .key name ∉ column.line.phrases := by
  cases column
  simp only [Column.line]
  split <;> split <;> simp

theorem model_ne_primaryKey (model : ModelColumn) (name : List Char) :
    model.line ≠ ⟨"PRIMARY".toList, "KEY".toList, [.key name]⟩ := by
  have types : model.line.type ≠ "KEY".toList := by cases model <;> decide
  exact fun same => types (congrArg Line.type same)

theorem model_injective {left right : ModelColumn} (same : left.line = right.line) :
    left = right := by
  have names := congrArg Line.name same
  revert names
  cases left <;> cases right <;> decide

/-- A line is that of one column only, up to its reading. -/
theorem reading_of_line {left right : ColumnLine} (leftValid : left.Valid)
    (rightValid : right.Valid) (same : left.line = right.line) : left.reading = right.reading := by
  obtain ⟨column, reading, line⟩ | ⟨column, columnValid, reading, line⟩ | ⟨name, plain, reading, line⟩ :=
    cases_line leftValid <;>
  obtain ⟨column', reading', line'⟩ | ⟨column', columnValid', reading', line'⟩ |
    ⟨name', plain', reading', line'⟩ := cases_line rightValid <;>
  rw [line, line'] at same <;> rw [reading, reading']
  · rw [model_injective same]
  · exact absurd same (model_ne_declared column column' columnValid')
  · exact absurd same (model_ne_primaryKey column name'.toList)
  · exact absurd same.symm (model_ne_declared column' column columnValid)
  · rw [Column.line_injective same]
  · have phrases := congrArg Line.phrases same
    exact absurd (phrases ▸ List.mem_singleton.mpr rfl) (key_not_mem_declared column name'.toList)
  · exact absurd same.symm (model_ne_primaryKey column' name.toList)
  · have phrases := congrArg Line.phrases same
    exact absurd (phrases.symm ▸ List.mem_singleton.mpr rfl)
      (key_not_mem_declared column' name.toList)
  · have keys := Phrase.key.inj (List.singleton_inj.mp (congrArg Line.phrases same))
    rw [String.toList_inj.mp keys]

end ColumnLine

end RecordSql
