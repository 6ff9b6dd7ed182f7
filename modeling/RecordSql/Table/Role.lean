import RecordSql.Table.ColumnType
import RecordSql.Table.Modifier
import RecordSql.Table.Statement

/-!
The role of a field in its table. The name of a field tells whether it is a relation, and to how
many rows; its type tells the other table.
-/

namespace RecordSql
open Name (tableName)

inductive Role where
  | scalar
  | belongsTo
  | associateTo
  | hasAndBelongsToMany
deriving DecidableEq

def startsWith (start name : String) : Bool := start.toList.isPrefixOf name.toList

/-- The role that a field has by its name. -/
def Role.ofName (name : String) : Role :=
  if startsWith "belongsTo" name then belongsTo
  else if startsWith "associateTo" name then associateTo
  else if startsWith "hasAndBelongsToMany" name then hasAndBelongsToMany
  else scalar

/-- A column that refers to a table. -/
structure ForeignKey where
  column : String
  references : String
deriving DecidableEq

namespace ForeignKey

/-- The key to the table of a type, in the column that a field names or else in the usual one. -/
def toType (typeName : String) (column : Option String) : ForeignKey where
  column := column.getD (Name.foreignKey (tableName typeName))
  references := tableName typeName

def constraint (key : ForeignKey) (onDelete : OnDelete) : Constraint :=
  ⟨key.column, key.references, onDelete⟩

end ForeignKey

/-- A field with all that its table needs to know of it. -/
inductive ClassifiedField where
  /-- A column; `index` tells whether one is wanted, and whether it is unique. -/
  | scalar (column : Column) (primary : Bool) (index : Option Bool)
  | belongsTo (key : ForeignKey)
  | associateTo (key : ForeignKey)
  | hasAndBelongsToMany (join : JoinTable)
deriving DecidableEq

namespace FieldDefinition

/-- The type that a field of the given type stores. -/
def target (field : FieldDefinition) (type : String) : Except Error TargetType :=
  match field.type.target? with
  | some target => .ok target
  | none => .error (.unsupportedReference type field.name field.type.form.name)

/-- The field in its role, given what it stores and what its directives ask for. -/
def inRole (field : FieldDefinition) (table : String) (target : TargetType)
    (modifiers : Modifiers) : ClassifiedField :=
  match Role.ofName field.name with
  | .scalar =>
      .scalar
        { name := field.name
          sqlType := columnType target.name
          clauses := modifiers.clauses
          nonNull := target.nonNull
          autoIncrement := modifiers.autoIncrement }
        modifiers.primary
        (if modifiers.indexed then some modifiers.unique else none)
  | .belongsTo => .belongsTo (.toType target.name modifiers.foreignKey)
  | .associateTo => .associateTo (.toType target.name modifiers.foreignKey)
  | .hasAndBelongsToMany => .hasAndBelongsToMany (.between table (tableName target.name))

/-- Classifies a field of a type that is stored in `table`. Its type is looked at before its
directives. -/
def classify (field : FieldDefinition) (type table : String) : Except Error ClassifiedField := do
  let target ← field.target type
  let modifiers ← Modifiers.ofField type field
  .ok (field.inRole table target modifiers)

end FieldDefinition

end RecordSql
