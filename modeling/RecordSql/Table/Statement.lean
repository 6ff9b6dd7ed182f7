import RecordSql.Name.TableName
import RecordSql.Table.Column

/-!
Statements that make up the definition of a table: the table itself, the join tables of its
relations to many, its indexes and the trigger that keeps the time of the last update.
-/

namespace RecordSql
open Name (singularize foreignKey)

/-- The statement that creates a table with the given lines. -/
def createTable (name : String) (lines : List String) : String :=
  "CREATE TABLE " ++ name ++ "(\n    " ++ " ,\n    ".intercalate lines ++ "\n);"

/-- A table of pairs of rows from two tables. -/
structure JoinTable where
  name : String
  ownerTable : String
  ownerKey : String
  targetTable : String
  targetKey : String
deriving DecidableEq

namespace JoinTable

/-- The join table between the rows of an owner and those of a target. -/
def between (owner target : String) : JoinTable where
  name := singularize owner ++ "_" ++ target
  ownerTable := owner
  ownerKey := foreignKey owner
  targetTable := target
  targetKey := foreignKey target

/-- The two keys and the weight of a pair. -/
def columns (join : JoinTable) : List ColumnLine :=
  [.foreignKey join.ownerKey true, .foreignKey join.targetKey true,
   .declared { name := "weight", sqlType := "REAL" }]

def constraints (join : JoinTable) : List Constraint :=
  [⟨join.ownerKey, join.ownerTable, .cascade⟩, ⟨join.targetKey, join.targetTable, .cascade⟩]

def sql (join : JoinTable) : String :=
  createTable join.name (join.columns.map ColumnLine.sql ++ join.constraints.map Constraint.sql)

end JoinTable

structure Index where
  table : String
  column : String
  unique : Bool
deriving DecidableEq

def Index.name (index : Index) : String := "idx_" ++ index.table ++ "_" ++ index.column

def Index.sql (index : Index) : String :=
  (if index.unique then "CREATE UNIQUE INDEX " else "CREATE INDEX ") ++ index.name ++ " ON " ++
    index.table ++ " (" ++ index.column ++ ");"

/-- The trigger that renews `updated_at`. Its guard keeps its own update from firing it again. -/
structure UpdateTrigger where
  table : String
deriving DecidableEq

def UpdateTrigger.sql (trigger : UpdateTrigger) : String :=
  "CREATE TRIGGER " ++ trigger.table ++ "_updated_at AFTER UPDATE ON " ++ trigger.table ++
    " WHEN old.updated_at < CURRENT_TIMESTAMP BEGIN\n    UPDATE " ++ trigger.table ++
    " SET updated_at = CURRENT_TIMESTAMP WHERE id = old.id;\nEND;"

end RecordSql
