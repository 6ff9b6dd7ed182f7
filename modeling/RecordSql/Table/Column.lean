/-!
Lines of a table: its columns, and the foreign keys that constrain them.
-/

namespace RecordSql

/-- A declared column. -/
structure Column where
  name : String
  sqlType : String
  /-- `DEFAULT` and `UNIQUE` clauses as written. -/
  clauses : List String := []
  nonNull : Bool := false
  autoIncrement : Bool := false
deriving DecidableEq

/-- The keyword of a column that the database numbers by itself. -/
def autoIncrementKeyword : String := "AUTO_INCREMENT"

def Column.sql (column : Column) : String :=
  column.name ++ " " ++ column.sqlType ++
    (if column.clauses.isEmpty then "" else " " ++ " ".intercalate column.clauses) ++
    (if column.nonNull then " NOT NULL" else "") ++
    (if column.autoIncrement then " " ++ autoIncrementKeyword else "")

/-- A column of the default model. -/
inductive ModelColumn where
  | identity
  | createdAt
  | updatedAt
deriving DecidableEq

namespace ModelColumn

/-- The columns of the default model in the order in which a table begins with them. -/
def all : List ModelColumn := [identity, createdAt, updatedAt]

def name : ModelColumn → String
  | identity => "id"
  | createdAt => "created_at"
  | updatedAt => "updated_at"

/-- The line of the column. The identity grows with the time of insertion and ends in a random
part. -/
def sql : ModelColumn → String
  | identity =>
      "id INTEGER UNIQUE DEFAULT ((( strftime('%s','now') - 1563741060 ) * 100000) + " ++
        "(RANDOM() & 65535)) NOT NULL"
  | createdAt => "created_at DATETIME DEFAULT CURRENT_TIMESTAMP NOT NULL"
  | updatedAt => "updated_at DATETIME DEFAULT CURRENT_TIMESTAMP NOT NULL"

end ModelColumn

inductive ColumnLine where
  | model (column : ModelColumn)
  | declared (column : Column)
  /-- The column of a relation, which holds the identity of another row. -/
  | foreignKey (name : String) (nonNull : Bool)
  /-- The mark that the column before it is the primary key. -/
  | primaryKey (name : String)
deriving DecidableEq

def ColumnLine.sql : ColumnLine → String
  | model column => column.sql
  | declared column => column.sql
  | foreignKey name nonNull => name ++ " INTEGER" ++ (if nonNull then " NOT NULL" else "")
  | primaryKey name => "PRIMARY KEY (" ++ name ++ ")"

/-- What happens to a row when the row that it refers to is deleted. -/
inductive OnDelete where
  | cascade
  | setNull
deriving DecidableEq

def OnDelete.sql : OnDelete → String
  | cascade => "CASCADE"
  | setNull => "SET NULL"

/-- A column whose values are identities of another table. -/
structure Constraint where
  column : String
  references : String
  onDelete : OnDelete
deriving DecidableEq

def Constraint.sql (constraint : Constraint) : String :=
  "FOREIGN KEY (" ++ constraint.column ++ ") REFERENCES " ++ constraint.references ++
    " (id) ON DELETE " ++ constraint.onDelete.sql

end RecordSql
