import RecordSql.Table.Role

/-!
The specification of a table: all that a record type compiles to. The fields of the type are gone
through in order, and what each of them contributes is put behind what the table has by then.
-/

namespace RecordSql
open Name (tableName)

structure TableSpec where
  name : String
  /-- The columns of the default model come first. -/
  columns : List ColumnLine
  constraints : List Constraint
  trigger : Option UpdateTrigger
  joinTables : List JoinTable
  indexes : List Index
deriving DecidableEq

/-- The part of a table that one field accounts for. -/
structure Contribution where
  columns : List ColumnLine := []
  constraints : List Constraint := []
  joinTables : List JoinTable := []
  indexes : List Index := []
deriving DecidableEq

/-- What a classified field adds to its table. -/
def ClassifiedField.contribution (table : String) : ClassifiedField → Contribution
  | scalar column primary index =>
      { columns := .declared column :: (if primary then [.primaryKey column.name] else [])
        indexes := index.toList.map (fun unique => ⟨table, column.name, unique⟩) }
  | belongsTo key =>
      { columns := [.foreignKey key.column true], constraints := [key.constraint .cascade] }
  | associateTo key =>
      { columns := [.foreignKey key.column false], constraints := [key.constraint .setNull] }
  | hasAndBelongsToMany join => { joinTables := [join] }

/-- The table with one part more, behind what it has. -/
def TableSpec.add (spec : TableSpec) (part : Contribution) : TableSpec where
  name := spec.name
  columns := spec.columns ++ part.columns
  constraints := spec.constraints ++ part.constraints
  trigger := spec.trigger
  joinTables := spec.joinTables ++ part.joinTables
  indexes := spec.indexes ++ part.indexes

/-- Fields under the name of a column of the default model give way to it. -/
def FieldDefinition.isReplaced (field : FieldDefinition) : Bool :=
  (ModelColumn.all.map ModelColumn.name).contains field.name

namespace TypeDefinition

/-- What a field of the type adds to its table. -/
def contribution (definition : TypeDefinition) (field : FieldDefinition) :
    Except Error Contribution := do
  let classified ← field.classify definition.name (tableName definition.name)
  .ok (classified.contribution (tableName definition.name))

/-- The table of a record type before any of its fields, with the default model if it is used. -/
def bareTable (definition : TypeDefinition) (useDefaultModel : Bool) : TableSpec where
  name := tableName definition.name
  columns := if useDefaultModel then ModelColumn.all.map ColumnLine.model else []
  constraints := []
  trigger := if useDefaultModel then some ⟨tableName definition.name⟩ else none
  joinTables := []
  indexes := []

/-- The table together with what a further field of the type adds to it. A field that gives way to
the default model is passed over. -/
def addToTable (definition : TypeDefinition) (useDefaultModel : Bool) (spec : TableSpec)
    (field : FieldDefinition) : Except Error TableSpec :=
  if useDefaultModel && field.isReplaced then .ok spec
  else do
    let part ← definition.contribution field
    .ok (spec.add part)

/-- The table of a record type, or the error of its first field that has one. -/
def table (definition : TypeDefinition) (useDefaultModel : Bool) : Except Error TableSpec :=
  definition.fields.foldlM (definition.addToTable useDefaultModel)
    (definition.bareTable useDefaultModel)

end TypeDefinition

namespace TableSpec

/-- The lines between the brackets of the table. -/
def lines (spec : TableSpec) : List String :=
  spec.columns.map ColumnLine.sql ++ spec.constraints.map Constraint.sql

/-- The statements of a table: the table itself, its trigger, its join tables and its indexes. -/
def statements (spec : TableSpec) : List String :=
  createTable spec.name spec.lines ::
    (spec.trigger.toList.map UpdateTrigger.sql ++ spec.joinTables.map JoinTable.sql ++
      spec.indexes.map Index.sql)

/-- The statements, each on lines of its own, between two line breaks. -/
def sql (spec : TableSpec) : String := "\n" ++ "\n".intercalate spec.statements ++ "\n"

end TableSpec

end RecordSql
