import RecordSql.Insert.Batch
import RecordSql.Proofs.Except
import RecordSql.Proofs.Sql.Quoted

/-!
What a database reads in the text of an insertion. Cells may hold quotes, brackets, line breaks and
whole statements; the rows and the cells that are read are those that were written.
-/

namespace RecordSql
open Name (snakeCase)

/-- An insertion as it is read: the columns are named once, and every row has its own cells. -/
structure Insertion where
  table : String
  columns : List String
  rows : List (List String)
deriving DecidableEq

namespace Insertion

/-- The name of a table, which goes on up to the bracket that opens its columns. -/
def readTable : TextReader String := fun text => do
  let (front, rest) ← TextReader.upTo '(' text
  if front.getLast? = some ' ' then some (String.ofList front.dropLast, rest) else none

/-- The name of a column. -/
def readColumn : TextReader String := fun text =>
  let name := text.takeWhile (fun c => c != ',' && c != ')')
  some (String.ofList name, text.drop name.length)

/-- The cells of a row. -/
def readRow : TextReader (List String) := fun text => do
  let rest ← TextReader.past "(".toList text
  TextReader.closed (Sql.readQuoted '\'') ", ".toList ")".toList rest

/-- A statement up to its semicolon. -/
def readStatement : TextReader Insertion := fun text => do
  let rest ← TextReader.past "INSERT INTO ".toList text
  let (table, rest) ← readTable rest
  let (columns, rest) ← TextReader.closed readColumn ", ".toList ")".toList rest
  let rest ← TextReader.past " VALUES ".toList rest
  let (rows, rest) ← TextReader.closed readRow ",\n".toList ";".toList rest
  some (⟨table, columns, rows⟩, rest)

/-- Statements on lines of their own, with nothing after the last. -/
def readAll (text : List Char) : Option (List Insertion) :=
  if text = [] then some []
  else match TextReader.items readStatement "\n".toList [] (text.length + 1) text with
    | some (insertions, []) => some insertions
    | _ => none

/-- The insertion of the records of an entity: its columns are those of the first record. -/
def ofBatch {α : Type} [Cell α] (entity : String) (records : List (Record α)) : Insertion where
  table := snakeCase entity
  columns := (records.head?.map Keyed.keys).getD []
  rows := records.map (fun record => record.values.map Cell.text)

/-! The text of an insertion. -/

def rowText (row : List String) : List Char :=
  "(".toList ++ (", ".toList.intercalate (row.map (fun cell => (Sql.quoted '\'' cell).toList)) ++
    ")".toList)

def text (insertion : Insertion) : List Char :=
  "INSERT INTO ".toList ++ (insertion.table.toList ++ (" (".toList ++
    (", ".toList.intercalate (insertion.columns.map String.toList) ++ (")".toList ++
      (" VALUES ".toList ++ (",\n".toList.intercalate (insertion.rows.map rowText) ++
        ";".toList))))))

/-- Names that a statement can hold without quotes. -/
structure HasPlainNames (insertion : Insertion) : Prop where
  table : '(' ∉ insertion.table.toList
  columns : ∀ column ∈ insertion.columns, column ≠ "" ∧ ∀ c ∈ column.toList, c ≠ ',' ∧ c ≠ ')'

theorem rowText_cons (row : List String) : ∃ tail, rowText row = '(' :: tail := ⟨_, by
  rw [rowText]
  exact List.cons_append⟩

theorem readTable_append (table : String) (rest : List Char) (plain : '(' ∉ table.toList) :
    readTable (table.toList ++ (" (".toList ++ rest)) = some (table, rest) := by
  have front : '(' ∉ table.toList ++ [' '] := by simpa using plain
  have whole : table.toList ++ (" (".toList ++ rest) = (table.toList ++ [' ']) ++ '(' :: rest := by
    simp
  rw [whole, readTable, TextReader.upTo_append '(' _ rest front]
  simp

theorem readColumn_undoes (columns : List String)
    (plain : ∀ column ∈ columns, column ≠ "" ∧ ∀ c ∈ column.toList, c ≠ ',' ∧ c ≠ ')') :
    TextReader.Undoes readColumn String.toList
      (fun rest => rest.head? = some ',' ∨ rest.head? = some ')') columns := by
  intro column member rest follows
  have inName : ∀ c ∈ column.toList, (c != ',' && c != ')') = true := by
    intro c inColumn
    have other := (plain column member).2 c inColumn
    simp [other.1, other.2]
  have stops : rest.takeWhile (fun c => c != ',' && c != ')') = [] := by
    cases rest with
    | nil => rfl
    | cons c rest =>
      have stop : c = ',' ∨ c = ')' := by simpa using follows
      rcases stop with rfl | rfl <;> rfl
  have name : (column.toList ++ rest).takeWhile (fun c => c != ',' && c != ')') =
      column.toList := by
    rw [List.takeWhile_append_of_pos inName, stops, List.append_nil]
  simp only [readColumn, name, String.ofList_toList, List.drop_left]

theorem readRow_undoes (rows : List (List String)) :
    TextReader.Undoes readRow rowText (fun _ => True) rows := by
  intro row _ rest _
  have cells : TextReader.Undoes (Sql.readQuoted '\'') (fun cell => (Sql.quoted '\'' cell).toList)
      (fun rest => rest.head? ≠ some '\'') row :=
    fun cell _ rest other => Sql.readQuoted_quoted '\'' cell rest other
  rw [rowText, readRow, List.append_assoc, List.append_assoc, TextReader.past_append]
  refine TextReader.closed_intercalate _ _ _ ',' ')' _ _ row rest cells (by decide) (by decide)
    (by decide) ?_ ?_ ?_
  · intro cell _
    exact ⟨'\'', _, Sql.toList_quoted '\'' cell, by decide⟩
  · intro rest
    simp
  · simp

theorem readColumns (columns : List String)
    (plain : ∀ column ∈ columns, column ≠ "" ∧ ∀ c ∈ column.toList, c ≠ ',' ∧ c ≠ ')')
    (rest : List Char) :
    TextReader.closed readColumn ", ".toList ")".toList
      (", ".toList.intercalate (columns.map String.toList) ++ (")".toList ++ rest)) =
        some (columns, rest) := by
  refine TextReader.closed_intercalate _ _ _ ',' ')' _ _ _ rest (readColumn_undoes columns plain)
    (by decide) (by decide) (by decide) ?_ ?_ ?_
  · intro column inColumns
    obtain ⟨nonempty, other⟩ := plain column inColumns
    obtain ⟨c, tail, same⟩ := List.exists_cons_of_ne_nil
      (fun empty => nonempty (String.toList_eq_nil_iff.mp empty))
    exact ⟨c, tail, same, (other c (same ▸ List.mem_cons_self ..)).2⟩
  · intro rest
    exact Or.inl rfl
  · exact Or.inr rfl

theorem readRows (rows : List (List String)) (rest : List Char) :
    TextReader.closed readRow ",\n".toList ";".toList
      (",\n".toList.intercalate (rows.map rowText) ++ (";".toList ++ rest)) = some (rows, rest) := by
  refine TextReader.closed_intercalate _ _ _ ',' ';' _ _ _ rest (readRow_undoes rows)
    (by decide) (by decide) (by decide) ?_ (fun _ => trivial) trivial
  intro row _
  obtain ⟨tail, same⟩ := rowText_cons row
  exact ⟨'(', tail, same, by decide⟩

theorem readStatement_undoes (insertions : List Insertion)
    (plain : ∀ insertion ∈ insertions, insertion.HasPlainNames) :
    TextReader.Undoes readStatement text (fun _ => True) insertions := by
  intro insertion member rest _
  obtain ⟨table, columns⟩ := plain insertion member
  unfold text readStatement
  simp only [List.append_assoc, TextReader.past_append, Option.bind_eq_bind, Option.bind_some,
    readTable_append insertion.table _ table, readColumns insertion.columns columns,
    readRows insertion.rows]

theorem readAll_intercalate (insertions : List Insertion)
    (plain : ∀ insertion ∈ insertions, insertion.HasPlainNames) :
    readAll ("\n".toList.intercalate (insertions.map text)) = some insertions := by
  cases insertions with
  | nil => rfl
  | cons first others =>
    have enough := TextReader.length_le_intercalate "\n".toList ((first :: others).map text) (by decide)
    rw [List.length_map, List.length_cons] at enough
    have reads := TextReader.items_intercalate readStatement "\n".toList [] text (fun _ => True) first
      others (("\n".toList.intercalate ((first :: others).map text)).length + 1) []
      (readStatement_undoes (first :: others) plain) (by omega) (fun _ => trivial) trivial rfl
    rw [List.append_nil, List.append_nil] at reads
    unfold readAll
    generalize "\n".toList.intercalate ((first :: others).map text) = whole at reads
    have nonempty : whole ≠ [] := by
      intro same
      subst same
      contradiction
    simp only [if_neg nonempty, reads]

theorem toList_row {α : Type} [Cell α] (record : Record α) :
    record.row.toList = rowText (record.values.map Cell.text) := by
  unfold Record.row rowText
  simp only [String.toList_append, String.toList_intercalate, List.map_map, List.append_assoc]
  rfl

theorem insertBatch_cons {α : Type} [Cell α] (entity : String) (first : Record α)
    (records : List (Record α)) :
    insertBatch entity (first :: records) =
      .ok (String.ofList (ofBatch entity (first :: records)).text) := by
  have rows : ((first :: records).map Record.row).map String.toList =
      (ofBatch entity (first :: records)).rows.map rowText := by
    unfold ofBatch
    rw [List.map_map, List.map_map]
    exact List.map_congr_left (fun record _ => toList_row record)
  unfold insertBatch
  rw [Except.ok.injEq, ← String.toList_inj, String.toList_ofList]
  simp only [String.toList_append, String.toList_intercalate, rows, List.append_assoc]
  rfl

end Insertion

section
variable {α : Type} [Cell α]

theorem insertBatch_eq_ok (entity : String) (records : List (Record α)) (nonempty : records ≠ []) :
    insertBatch entity records = .ok (String.ofList (Insertion.ofBatch entity records).text) := by
  obtain ⟨first, others, rfl⟩ := List.exists_cons_of_ne_nil nonempty
  exact Insertion.insertBatch_cons entity first others

theorem sql_eq_ok (batches : Batches α) (nonempty : ∀ batch ∈ batches.entries, batch.2 ≠ []) :
    batches.sql = .ok ("\n".intercalate (batches.entries.map
      (fun batch => String.ofList (Insertion.ofBatch batch.1 batch.2).text))) := by
  rw [Batches.sql, bind_eq_ok]
  refine ⟨_, (mapM_eq_ok_iff _ _ _).mpr ?_, rfl⟩
  rw [List.forall₂_map_right_iff, List.forall₂_same]
  exact fun batch member => insertBatch_eq_ok batch.1 batch.2 (nonempty batch member)

theorem sql_eq_error (batches : Batches α) (before after : List (String × List (Record α)))
    (entity : String) (divided : batches.entries = before ++ (entity, []) :: after)
    (nonempty : ∀ batch ∈ before, batch.2 ≠ []) :
    batches.sql = .error (.emptyBatch entity) := by
  rw [Batches.sql, divided, mapM_eq_error _ before after (entity, []) (.emptyBatch entity) ?_ rfl]
  · rfl
  · exact fun batch member => ⟨_, insertBatch_eq_ok batch.1 batch.2 (nonempty batch member)⟩

/-- Insertion fails exactly if a batch is empty, with the first such batch. All other insertions are
read as they were meant: the table and the columns of every batch and all of its rows, in their
order and with nothing after them. -/
theorem readAll_sql (batches : Batches α)
    (tables : ∀ batch ∈ batches.entries, '(' ∉ (snakeCase batch.1).toList)
    (columns : ∀ batch ∈ batches.entries, ∀ record ∈ batch.2.head?, ∀ column ∈ record.keys,
      column ≠ "" ∧ ',' ∉ column.toList ∧ '(' ∉ column.toList ∧ ')' ∉ column.toList ∧
        ' ' ∉ column.toList) :
    ((∃ error, batches.sql = .error error) ↔ ∃ batch ∈ batches.entries, batch.2 = []) ∧
    (∀ before entity after, batches.entries = before ++ (entity, []) :: after →
      (∀ batch ∈ before, batch.2 ≠ []) → batches.sql = .error (.emptyBatch entity)) ∧
    ((∀ batch ∈ batches.entries, batch.2 ≠ []) →
      ∃ text, batches.sql = .ok text ∧ Insertion.readAll text.toList =
        some (batches.entries.map (fun batch => Insertion.ofBatch batch.1 batch.2))) := by
  have fails := sql_eq_error batches
  refine ⟨⟨?_, ?_⟩, fun before entity after => fails before after entity, ?_⟩
  · intro found
    obtain ⟨error, failed⟩ := found
    by_contra none
    rw [sql_eq_ok batches (fun batch member empty => none ⟨batch, member, empty⟩)] at failed
    contradiction
  · intro found
    obtain ⟨batch, member, empty⟩ := found
    have found : (batches.entries.find? (fun batch => batch.2.isEmpty)).isSome :=
      List.find?_isSome.mpr ⟨batch, member, List.isEmpty_iff.mpr empty⟩
    obtain ⟨⟨entity, records⟩, first⟩ := Option.isSome_iff_exists.mp found
    obtain ⟨none, before, after, divided, earlier⟩ := List.find?_eq_some_iff_append.mp first
    cases List.isEmpty_iff.mp none
    refine ⟨_, fails before after entity divided ?_⟩
    intro other inBefore emptyToo
    have nonempty := earlier other inBefore
    rw [emptyToo] at nonempty
    contradiction
  · intro nonempty
    refine ⟨_, sql_eq_ok batches nonempty, ?_⟩
    have read := Insertion.readAll_intercalate
      (batches.entries.map (fun batch => Insertion.ofBatch batch.1 batch.2)) ?_
    · simpa only [String.toList_intercalate, List.map_map, Function.comp_def,
        String.toList_ofList] using read
    · intro insertion member
      obtain ⟨batch, inBatches, rfl⟩ := List.mem_map.mp member
      refine ⟨tables batch inBatches, ?_⟩
      intro column inColumns
      cases head : batch.2.head? with
      | none => simp [Insertion.ofBatch, head] at inColumns
      | some record =>
        rw [Insertion.ofBatch, head] at inColumns
        obtain ⟨nonempty, noComma, -, noEnd, -⟩ :=
          columns batch inBatches record head column inColumns
        exact ⟨nonempty, fun c member =>
          ⟨fun same => noComma (same ▸ member), fun same => noEnd (same ▸ member)⟩⟩

theorem readAll_sql_notes :
    ∃ text, Batches.sql (Keyed.ofList [("Note",
        [Keyed.ofList [("body", "it's '), ('"), ("tag", ";\n")], Keyed.empty])]) = .ok text ∧
      Insertion.readAll text.toList =
        some [⟨"note", ["body", "tag"], [["it's '), ('", ";\n"], []]⟩] := by
  obtain ⟨text, written, read⟩ := (readAll_sql (Keyed.ofList [("Note",
    [Keyed.ofList [("body", "it's '), ('"), ("tag", ";\n")], Keyed.empty])])
    (by decide) (by decide)).2.2 (by decide)
  exact ⟨text, written, read.trans (by decide)⟩

end

end RecordSql
