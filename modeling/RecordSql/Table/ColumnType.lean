/-!
Column types. The built-in scalars have a type of their own in the database; any other name is
taken over as it stands.
-/

namespace RecordSql

inductive Scalar where
  | int
  | float
  | string
  | boolean
  | date
deriving DecidableEq

namespace Scalar

def ofName? (name : String) : Option Scalar :=
  if name = "Int" then some int
  else if name = "Float" then some float
  else if name = "String" then some string
  else if name = "Boolean" then some boolean
  else if name = "Date" then some date
  else none

def columnType : Scalar → String
  | int => "INTEGER"
  | float => "REAL"
  | string => "TEXT"
  | boolean => "BOOLEAN"
  | date => "DATETIME"

end Scalar

/-- The column type for a type name. -/
def columnType (typeName : String) : String :=
  match Scalar.ofName? typeName with
  | some scalar => scalar.columnType
  | none => typeName

end RecordSql
