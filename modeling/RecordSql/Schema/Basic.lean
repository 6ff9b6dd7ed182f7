import RecordSql.Schema.Literal
import RecordSql.Schema.TypeReference

/-!
Schemas: type definitions with their fields, and the directives on the fields. Everything is kept
in the order of declaration.
-/

namespace RecordSql

/-- A named argument of a directive. -/
structure Argument where
  name : String
  value : Literal
deriving DecidableEq

structure Directive where
  name : String
  arguments : List Argument := []
deriving DecidableEq

structure FieldDefinition where
  name : String
  type : TypeReference
  directives : List Directive := []
deriving DecidableEq

/-- What a type definition defines. Only objects become tables. -/
inductive DefinitionKind where
  | object
  | scalar
  | interface
  | union
  | other (text : String)
deriving DecidableEq

structure TypeDefinition where
  kind : DefinitionKind
  name : String
  fields : List FieldDefinition := []
deriving DecidableEq

structure Schema where
  definitions : List TypeDefinition := []
deriving DecidableEq

/-- The first argument of a directive under a name. -/
def Directive.argument? (directive : Directive) (name : String) : Option Literal :=
  (directive.arguments.find? (fun argument => argument.name = name)).map Argument.value

def Directive.value? (directive : Directive) : Option Literal := directive.argument? "value"

def FieldDefinition.hasDirective (field : FieldDefinition) (name : String) : Bool :=
  field.directives.any (fun directive => directive.name = name)

/-- The last directive of a field under a name. -/
def FieldDefinition.directive? (field : FieldDefinition) (name : String) : Option Directive :=
  field.directives.reverse.find? (fun directive => directive.name = name)

namespace DefinitionKind

def text : DefinitionKind → String
  | object => "ObjectTypeDefinition"
  | scalar => "ScalarTypeDefinition"
  | interface => "InterfaceTypeDefinition"
  | union => "UnionTypeDefinition"
  | other text => text

def ofText (text : String) : DefinitionKind :=
  if text = "ObjectTypeDefinition" then object
  else if text = "ScalarTypeDefinition" then scalar
  else if text = "InterfaceTypeDefinition" then interface
  else if text = "UnionTypeDefinition" then union
  else other text

end DefinitionKind

/-! Agreement of schemas: equality, but for floats, which are compared as numbers. -/

def Argument.agrees (left right : Argument) : Bool :=
  left.name == right.name && left.value.agrees right.value

def Directive.agrees (left right : Directive) : Bool :=
  left.name == right.name && left.arguments.isEqv right.arguments Argument.agrees

def FieldDefinition.agrees (left right : FieldDefinition) : Bool :=
  left.name == right.name && left.type == right.type &&
    left.directives.isEqv right.directives Directive.agrees

def TypeDefinition.agrees (left right : TypeDefinition) : Bool :=
  left.kind == right.kind && left.name == right.name &&
    left.fields.isEqv right.fields FieldDefinition.agrees

def Schema.agrees (left right : Schema) : Bool :=
  left.definitions.isEqv right.definitions TypeDefinition.agrees

end RecordSql
