import RecordSql.Proofs.Table.Statement

/-!
The block of a table: its statements between line breaks. The statements are read as the table, its
trigger, its join tables and its indexes, and blocks are told apart by the empty line between them.
-/

namespace RecordSql

/-! The texts of statements. -/

theorem toList_createTable (name : String) (texts : List String) (lines : List Line)
    (same : texts.map String.toList = lines.map Line.text) :
    (createTable name texts).toList = (Statement.table name lines).text := by
  have front : "CREATE TABLE ".toList = "CREATE ".toList ++ ("TABLE".toList ++ [' ']) := by decide
  change _ = "CREATE ".toList ++ ("TABLE".toList ++ (' ' :: (name.toList ++ ("(\n    ".toList ++
    (" ,\n    ".toList.intercalate (lines.map Line.text) ++ "\n);".toList)))))
  unfold createTable
  rw [String.toList_append, String.toList_append, String.toList_append, String.toList_append,
    String.toList_intercalate, same, front]
  simp only [List.append_assoc, List.cons_append, List.nil_append]

theorem toList_trigger (renewal : UpdateTrigger) :
    renewal.sql.toList = (Statement.trigger renewal).text := by
  have front : "CREATE TRIGGER ".toList = "CREATE ".toList ++ ("TRIGGER".toList ++ [' ']) := by decide
  have middle : "_updated_at AFTER UPDATE ON ".toList =
      "_updated_at".toList ++ " AFTER UPDATE ON ".toList := by decide
  change _ = "CREATE ".toList ++ ("TRIGGER".toList ++ (' ' :: Statement.triggerTail renewal))
  unfold UpdateTrigger.sql Statement.triggerTail
  rw [String.toList_append, String.toList_append, String.toList_append, String.toList_append,
    String.toList_append, String.toList_append, String.toList_append, front, middle]
  simp only [List.append_assoc, List.cons_append, List.nil_append]

theorem toList_index (entry : Index) : entry.sql.toList = (Statement.index entry).text := by
  have plain : "CREATE INDEX ".toList = "CREATE ".toList ++ ("INDEX".toList ++ [' ']) := by decide
  have unique : "CREATE UNIQUE INDEX ".toList =
      "CREATE ".toList ++ ("UNIQUE".toList ++ (' ' :: "INDEX ".toList)) := by decide
  have tail (start : String) : (start ++ entry.name ++ " ON " ++ entry.table ++ " (" ++
      entry.column ++ ");").toList = start.toList ++ Statement.indexTail entry := by
    unfold Statement.indexTail
    simp only [String.toList_append, List.append_assoc]
  obtain ⟨table, column, isUnique⟩ := entry
  cases isUnique
  · refine (tail "CREATE INDEX ").trans ?_
    rw [plain]
    simp only [List.append_assoc, List.cons_append, List.nil_append]
    rfl
  · refine (tail "CREATE UNIQUE INDEX ").trans ?_
    rw [unique]
    simp only [List.append_assoc, List.cons_append]
    rfl

/-! The statements of a table. -/

def JoinTable.part (join : JoinTable) : Statement :=
  .table join.name (tableLines join.columns join.constraints)

namespace TableSpec

def parts (spec : TableSpec) : List Statement :=
  .table spec.name (tableLines spec.columns spec.constraints) ::
    (spec.trigger.toList.map .trigger ++ spec.joinTables.map JoinTable.part ++
      spec.indexes.map .index)

/-- A table as it is read: the keys of relations are integer columns. -/
def reading (spec : TableSpec) : TableSpec :=
  { spec with columns := spec.columns.map ColumnLine.reading }

end TableSpec

theorem toList_tableLines (columns : List ColumnLine) (constraints : List Constraint) :
    (columns.map ColumnLine.sql ++ constraints.map Constraint.sql).map String.toList =
      (tableLines columns constraints).map Line.text := by
  unfold tableLines
  rw [List.map_append, List.map_append, List.map_map, List.map_map, List.map_map, List.map_map]
  exact congrArg₂ (· ++ ·) (List.map_congr_left (fun column _ => column.toList_sql))
    (List.map_congr_left (fun constraint _ => constraint.toList_sql))

theorem toList_statements (spec : TableSpec) :
    spec.statements.map String.toList = spec.parts.map Statement.text := by
  have joins : ∀ join : JoinTable, join.sql.toList = join.part.text :=
    fun join => toList_createTable _ _ _ (toList_tableLines join.columns join.constraints)
  unfold TableSpec.statements TableSpec.parts
  simp only [List.map_cons, List.map_append, List.map_map]
  refine congrArg₂ List.cons ?_ (congrArg₂ (· ++ ·) (congrArg₂ (· ++ ·) ?_ ?_) ?_)
  · exact toList_createTable _ _ _ (toList_tableLines spec.columns spec.constraints)
  · exact List.map_congr_left (fun renewal _ => toList_trigger renewal)
  · exact List.map_congr_left (fun join _ => joins join)
  · exact List.map_congr_left (fun entry _ => toList_index entry)

/-! Parts determine the table, up to its reading. -/

namespace Statement

def trigger? : Statement → Option UpdateTrigger
  | trigger renewal => some renewal
  | _ => none

def table? : Statement → Option Statement
  | table name lines => some (table name lines)
  | _ => none

def index? : Statement → Option Index
  | index entry => some entry
  | _ => none

end Statement

theorem part_injective {left right : JoinTable} (same : left.part = right.part) : left = right := by
  have names := (Statement.table.inj same).1
  have constraints := constraints_of_tableLines (Statement.table.inj same).2
  obtain ⟨leftName, leftOwner, leftOwnerKey, leftTarget, leftTargetKey⟩ := left
  obtain ⟨rightName, rightOwner, rightOwnerKey, rightTarget, rightTargetKey⟩ := right
  simp only [JoinTable.constraints, List.cons.injEq, Constraint.mk.injEq, and_true] at constraints
  obtain ⟨⟨rfl, rfl⟩, rfl, rfl⟩ := constraints
  cases names
  rfl

structure JoinTable.Valid (join : JoinTable) : Prop where
  name : IsPlain join.name
  ownerTable : IsPlain join.ownerTable
  ownerKey : IsPlain join.ownerKey
  targetTable : IsPlain join.targetTable
  targetKey : IsPlain join.targetKey

namespace TableSpec

structure Valid (spec : TableSpec) : Prop where
  name : IsPlain spec.name
  columns : ∀ column ∈ spec.columns, column.Valid
  constraints : ∀ constraint ∈ spec.constraints, constraint.Valid
  trigger : ∀ renewal ∈ spec.trigger, IsPlain renewal.table
  joinTables : ∀ join ∈ spec.joinTables, join.Valid
  indexes : ∀ entry ∈ spec.indexes, IsPlain entry.table ∧ IsPlain entry.column

theorem valid_tableLines {columns : List ColumnLine} {constraints : List Constraint}
    (columnsValid : ∀ column ∈ columns, column.Valid)
    (constraintsValid : ∀ constraint ∈ constraints, constraint.Valid) :
    ∀ line ∈ tableLines columns constraints, line.Valid := by
  intro line member
  rcases List.mem_append.mp member with inColumns | inConstraints
  · obtain ⟨column, found, rfl⟩ := List.mem_map.mp inColumns
    exact ColumnLine.valid_line (columnsValid column found)
  · obtain ⟨constraint, found, rfl⟩ := List.mem_map.mp inConstraints
    exact Constraint.valid_line (constraintsValid constraint found)

theorem valid_part {join : JoinTable} (valid : join.Valid) : join.part.Valid := by
  have weight : Column.Valid { name := "weight", sqlType := "REAL" } :=
    ⟨by decide, by decide, List.forall_mem_nil _⟩
  have columns : ∀ column ∈ join.columns, column.Valid :=
    List.forall_mem_cons.mpr ⟨valid.ownerKey, List.forall_mem_cons.mpr ⟨valid.targetKey,
      List.forall_mem_cons.mpr ⟨weight, List.forall_mem_nil _⟩⟩⟩
  have constraints : ∀ constraint ∈ join.constraints, constraint.Valid :=
    List.forall_mem_cons.mpr ⟨⟨valid.ownerKey, valid.ownerTable⟩,
      List.forall_mem_cons.mpr ⟨⟨valid.targetKey, valid.targetTable⟩, List.forall_mem_nil _⟩⟩
  exact ⟨valid.name, valid_tableLines columns constraints⟩

theorem valid_parts {spec : TableSpec} (valid : spec.Valid) : ∀ part ∈ spec.parts, part.Valid := by
  intro part member
  unfold parts at member
  simp only [List.mem_cons, List.mem_append, List.mem_map] at member
  rcases member with rfl | (⟨renewal, found, rfl⟩ | ⟨join, found, rfl⟩) | ⟨entry, found, rfl⟩
  · exact ⟨valid.name, valid_tableLines valid.columns valid.constraints⟩
  · exact valid.trigger renewal (Option.mem_toList.mp found)
  · exact valid_part (valid.joinTables join found)
  · exact valid.indexes entry found

theorem filterMap_parts {α : Type} (spec : TableSpec) (choose : Statement → Option α) :
    spec.parts.tail.filterMap choose = spec.trigger.toList.filterMap (fun renewal =>
      choose (.trigger renewal)) ++ spec.joinTables.filterMap (fun join => choose join.part) ++
        spec.indexes.filterMap (fun entry => choose (.index entry)) := by
  unfold parts
  rw [List.tail_cons, List.filterMap_append, List.filterMap_append, List.filterMap_map,
    List.filterMap_map, List.filterMap_map]
  rfl

theorem reading_of_parts {left right : TableSpec} (leftValid : left.Valid)
    (rightValid : right.Valid) (same : left.parts = right.parts) : left.reading = right.reading := by
  obtain ⟨names, lines⟩ := Statement.table.inj (List.cons.inj same).1
  have columns := columns_of_tableLines leftValid.columns rightValid.columns lines
  have constraints := constraints_of_tableLines lines
  -- The statements after the table are told apart by their kinds, whatever their order.
  have chosen {α : Type} (choose : Statement → Option α) := by
    have tails := congrArg (fun parts => parts.tail.filterMap choose) same
    rwa [filterMap_parts, filterMap_parts] at tails
  have triggers : left.trigger = right.trigger := by
    have found := chosen Statement.trigger?
    have lists : left.trigger.toList = right.trigger.toList := by
      simpa [Statement.trigger?, JoinTable.part] using found
    simpa using congrArg List.head? lists
  have joinTables : left.joinTables = right.joinTables := by
    have found := chosen Statement.table?
    have joins : left.joinTables.map JoinTable.part = right.joinTables.map JoinTable.part := by
      simpa [Statement.table?, JoinTable.part, ← List.filterMap_eq_map'] using found
    exact List.map_injective_iff.mpr (fun _ _ => part_injective) joins
  have indexes : left.indexes = right.indexes := by
    have found := chosen Statement.index?
    simpa [Statement.index?, JoinTable.part] using found
  cases left
  cases right
  cases names
  cases constraints
  cases triggers
  cases joinTables
  cases indexes
  exact congrArg (fun columns => TableSpec.mk _ columns _ _ _ _) columns

end TableSpec

/-! Blocks. -/

/-- The text of a block of statements. -/
def blockText (parts : List Statement) : List Char :=
  '\n' :: ("\n".toList.intercalate (parts.map Statement.text) ++ ['\n'])

/-- What may come after a block. -/
def endsBlock (rest : List Char) : Prop := rest = [] ∨ rest.head? = some '\n'

theorem toList_sql (spec : TableSpec) : spec.sql.toList = blockText spec.parts := by
  have start : "\n".toList = ['\n'] := by decide
  unfold TableSpec.sql blockText
  rw [String.toList_append, String.toList_append, String.toList_intercalate, toList_statements]
  rw [start]
  rfl

theorem text_cons (statement : Statement) : ∃ tail, statement.text = 'C' :: tail :=
  List.head?_eq_some_iff.mp (head?_append (by decide))

theorem statements_apart : TellsApart (fun parts : List Statement => ∀ part ∈ parts, part.Valid)
    (fun parts => "\n".toList.intercalate (parts.map Statement.text))
    (fun rest => ∃ tail, rest = '\n' :: tail ∧ endsBlock tail) := by
  refine TellsApart.intercalate _ Statement.apart (fun _ _ _ => trivial) (fun _ _ => trivial) ?_ ?_
  · intro part rest another _ closes same
    obtain ⟨tail, rfl, ends⟩ := closes
    obtain ⟨begin, text⟩ := text_cons part
    rw [text] at same
    have tails : 'C' :: (begin ++ rest) = tail := (List.cons.inj same).2
    rw [← tails] at ends
    rcases ends with empty | head
    · contradiction
    · exact absurd (Option.some.inj head) (by decide)
  · intro part rest another _ closes same
    obtain ⟨tail, rfl, -⟩ := closes
    obtain ⟨begin, text⟩ := text_cons part
    rw [text] at same
    exact absurd (List.cons.inj same).1 (by decide)

theorem block_apart : TellsApart (fun parts : List Statement => ∀ part ∈ parts, part.Valid)
    blockText endsBlock := by
  intro one other rest another oneValid otherValid restEnds anotherEnds same
  unfold blockText at same
  simp only [List.cons_append, List.append_assoc, List.nil_append] at same
  obtain ⟨rfl, rests⟩ := statements_apart one other _ _ oneValid otherValid ⟨rest, rfl, restEnds⟩
    ⟨another, rfl, anotherEnds⟩ (List.cons.inj same).2
  exact ⟨rfl, (List.cons.inj rests).2⟩

theorem blocks_apart : TellsApart
    (fun blocks : List (List Statement) => ∀ parts ∈ blocks, ∀ part ∈ parts, part.Valid)
    (fun blocks => "\n".toList.intercalate (blocks.map blockText)) (fun rest => rest = []) := by
  refine TellsApart.intercalate _ block_apart ?_ (fun _ => Or.inl) ?_ ?_
  · exact fun parts rest _ => Or.inr (head?_append (by decide))
  · intro parts rest another _ none same
    subst none
    exact absurd same (by simp [blockText])
  · intro parts rest another _ none same
    subst none
    exact absurd same (by simp [blockText])

/-- Tables that are written as the same text are read as the same tables. -/
theorem readings_of_sql {left right : List TableSpec} (leftValid : ∀ spec ∈ left, spec.Valid)
    (rightValid : ∀ spec ∈ right, spec.Valid)
    (same : "\n".intercalate (left.map TableSpec.sql) = "\n".intercalate (right.map TableSpec.sql)) :
    left.map TableSpec.reading = right.map TableSpec.reading := by
  have text : ∀ specs : List TableSpec, ("\n".intercalate (specs.map TableSpec.sql)).toList =
      "\n".toList.intercalate ((specs.map TableSpec.parts).map blockText) := by
    intro specs
    rw [String.toList_intercalate, List.map_map, List.map_map]
    exact congrArg _ (List.map_congr_left (fun spec _ => toList_sql spec))
  have valid : ∀ specs : List TableSpec, (∀ spec ∈ specs, spec.Valid) →
      ∀ parts ∈ specs.map TableSpec.parts, ∀ part ∈ parts, part.Valid := by
    intro specs allValid parts member
    obtain ⟨spec, found, rfl⟩ := List.mem_map.mp member
    exact TableSpec.valid_parts (allValid spec found)
  have lists := congrArg String.toList same
  rw [text, text] at lists
  have blocks := (blocks_apart _ _ [] [] (valid left leftValid) (valid right rightValid) rfl rfl
    (congrArg (· ++ []) lists)).1
  clear same lists
  induction left generalizing right with
  | nil =>
    cases right with
    | nil => rfl
    | cons spec right => contradiction
  | cons spec left ih =>
    cases right with
    | nil => contradiction
    | cons spec' right =>
      rw [List.forall_mem_cons] at leftValid rightValid
      simp only [List.map_cons, List.cons.injEq] at blocks ⊢
      exact ⟨TableSpec.reading_of_parts leftValid.1 rightValid.1 blocks.1,
        ih leftValid.2 rightValid.2 blocks.2⟩

end RecordSql
