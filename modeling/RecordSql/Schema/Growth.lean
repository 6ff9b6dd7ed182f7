import RecordSql.Schema.Basic

/-!
Schemas that grow: every addition goes to what was added last. Where there is nothing to add to,
nothing changes.
-/

namespace RecordSql

/-- Changes the last element of a list. -/
def changeLast {α : Type} (change : α → α) (list : List α) : List α :=
  list.modify (list.length - 1) change

def Directive.addArgument (directive : Directive) (argument : Argument) : Directive :=
  { directive with arguments := directive.arguments ++ [argument] }

def FieldDefinition.addDirective (field : FieldDefinition) (directive : Directive) :
    FieldDefinition :=
  { field with directives := field.directives ++ [directive] }

def TypeDefinition.addField (definition : TypeDefinition) (field : FieldDefinition) :
    TypeDefinition :=
  { definition with fields := definition.fields ++ [field] }

namespace Schema

def addDefinition (schema : Schema) (definition : TypeDefinition) : Schema :=
  { definitions := schema.definitions ++ [definition] }

/-- Adds a field to the last definition. -/
def addField (schema : Schema) (field : FieldDefinition) : Schema :=
  { definitions := changeLast (fun definition => definition.addField field) schema.definitions }

/-- Changes the last field of the last definition. -/
def changeField (schema : Schema) (change : FieldDefinition → FieldDefinition) : Schema :=
  { definitions :=
      changeLast
        (fun definition => { definition with fields := changeLast change definition.fields })
        schema.definitions }

/-- Adds a directive to the last field. -/
def addDirective (schema : Schema) (directive : Directive) : Schema :=
  schema.changeField (fun field => field.addDirective directive)

/-- Adds an argument to the last directive. -/
def addArgument (schema : Schema) (argument : Argument) : Schema :=
  schema.changeField (fun field =>
    { field with
      directives := changeLast (fun directive => directive.addArgument argument) field.directives })

def lastDefinition? (schema : Schema) : Option TypeDefinition := schema.definitions.getLast?

def lastField? (schema : Schema) : Option FieldDefinition :=
  schema.lastDefinition?.bind (fun definition => definition.fields.getLast?)

end Schema

end RecordSql
