import RecordSql.Json.Writer
import RecordSql.Schema.Basic

/-!
Schemas as JSON. Every field of a record is written, empty lists included, and the form of a type
reference comes first.
-/

namespace RecordSql
open Json (Value)

def Literal.toJson : Literal → Value
  | boolean value => .boolean value
  | int value => .integer value.toInt
  | float value => .float value
  | string value => .string value

def TypeReference.toJson : TypeReference → Value
  | named name => .object [("kind", .string Form.named.name), ("name", .string name)]
  | nonNull inner => .object [("kind", .string Form.nonNull.name), ("type", inner.toJson)]
  | list inner => .object [("kind", .string Form.list.name), ("type", inner.toJson)]

def Argument.toJson (argument : Argument) : Value :=
  .object [("name", .string argument.name), ("value", argument.value.toJson)]

def Directive.toJson (directive : Directive) : Value :=
  .object [("name", .string directive.name),
    ("arguments", .array (directive.arguments.map Argument.toJson))]

def FieldDefinition.toJson (field : FieldDefinition) : Value :=
  .object [("name", .string field.name), ("type", field.type.toJson),
    ("directives", .array (field.directives.map Directive.toJson))]

def TypeDefinition.toJson (definition : TypeDefinition) : Value :=
  .object [("kind", .string definition.kind.text), ("name", .string definition.name),
    ("fields", .array (definition.fields.map FieldDefinition.toJson))]

def Schema.toJson (schema : Schema) : Value :=
  .object [("definitions", .array (schema.definitions.map TypeDefinition.toJson))]

end RecordSql
