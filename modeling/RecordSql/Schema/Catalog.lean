import RecordSql.Error
import RecordSql.Keyed
import RecordSql.Schema.Basic

/-!
The catalog of a schema: its record types under their names. A type that is declared twice keeps
the place of its first declaration and the content of its last.
-/

namespace RecordSql

/-- Types that every schema has without declaring them. -/
def builtinTypes : List String := ["Int", "Float", "String", "Boolean", "ID"]

/-- Names that never become tables: private ones, which begin with an underscore, and the built-in
types. -/
def isExcludedName (name : String) : Bool :=
  name.toList.head? == some '_' || builtinTypes.contains name

abbrev Catalog := Keyed TypeDefinition

namespace Catalog

/-- Adds a definition. Excluded names are passed over before their kind is looked at. -/
def add (catalog : Catalog) (definition : TypeDefinition) : Except Error Catalog :=
  if isExcludedName definition.name then .ok catalog
  else match definition.kind with
    | .object => .ok (catalog.insert definition.name definition)
    | .scalar | .interface | .union => .ok catalog
    | .other kind => .error (.unknownKind definition.name kind)

end Catalog

def Schema.catalog (schema : Schema) : Except Error Catalog :=
  schema.definitions.foldlM Catalog.add Keyed.empty

end RecordSql
