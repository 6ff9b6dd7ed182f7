import RecordSql.Error
import RecordSql.Schema.Basic

/-!
What the directives on a field ask of its column. Directives that the compiler does not know are
passed over.
-/

namespace RecordSql

/-- The meaning of one directive. -/
inductive Modifier where
  | default (value : Literal)
  | unique
  | index
  | primary
  | autoIncrement
  | foreignKey (column : String)
deriving DecidableEq

/-- The meaning of a directive on a field. A default needs a value, and a foreign key a text. -/
def Modifier.ofDirective (type field : String) (directive : Directive) :
    Except Error (Option Modifier) :=
  let missing := .error (.missingArgument type field directive.name)
  if directive.name = "default" then
    match directive.value? with
    | some value => .ok (some (default value))
    | none => missing
  else if directive.name = "unique" then .ok (some unique)
  else if directive.name = "index" then .ok (some index)
  else if directive.name = "primary" then .ok (some primary)
  else if directive.name = "autoIncrement" then .ok (some autoIncrement)
  else if directive.name = "foreignKey" then
    match directive.value?.bind Literal.text? with
    | some column => .ok (some (foreignKey column))
    | none => missing
  else .ok none

/-- Everything that the directives of one field ask for. -/
structure Modifiers where
  clauses : List String := []
  unique : Bool := false
  indexed : Bool := false
  primary : Bool := false
  autoIncrement : Bool := false
  foreignKey : Option String := none
deriving DecidableEq

namespace Modifiers

/-- Adds one modifier. Clauses keep the order of the directives, and the last foreign key holds. -/
def add (modifiers : Modifiers) : Modifier → Modifiers
  | .default value => { modifiers with clauses := modifiers.clauses ++ ["DEFAULT " ++ value.sql] }
  | .unique => { modifiers with unique := true, clauses := modifiers.clauses ++ ["UNIQUE"] }
  | .index => { modifiers with indexed := true }
  | .primary => { modifiers with primary := true }
  | .autoIncrement => { modifiers with autoIncrement := true }
  | .foreignKey column => { modifiers with foreignKey := some column }

/-- The modifiers together with what a further directive means, if it means anything. -/
def addMeaning (modifiers : Modifiers) : Option Modifier → Modifiers
  | none => modifiers
  | some modifier => modifiers.add modifier

/-- The modifiers together with what a further directive of a field asks for. -/
def addDirective (type field : String) (modifiers : Modifiers) (directive : Directive) :
    Except Error Modifiers := do
  let meaning ← Modifier.ofDirective type field directive
  .ok (modifiers.addMeaning meaning)

/-- The modifiers of a field of a type, or the error of its first directive that has one. -/
def ofField (type : String) (field : FieldDefinition) : Except Error Modifiers :=
  field.directives.foldlM (addDirective type field.name) {}

end Modifiers

end RecordSql
