import RecordSql.Options
import RecordSql.Schema.Catalog
import RecordSql.Schema.Decode
import RecordSql.Table.Specification

/-!
From a schema to the statements that create its tables. The tables are specified first, in the
order of the catalog, and then written out.
-/

namespace RecordSql

/-- The statements of one record type. -/
def TypeDefinition.ddl (definition : TypeDefinition) (options : CompileOptions) :
    Except Error String := do
  let spec ← definition.table options.useDefaultModel
  .ok spec.sql

namespace Catalog

/-- The tables of all record types, or the error of the first type that has one. -/
def tables (catalog : Catalog) (options : CompileOptions) : Except Error (List TableSpec) :=
  catalog.values.mapM (fun definition => definition.table options.useDefaultModel)

def ddl (catalog : Catalog) (options : CompileOptions) : Except Error String := do
  let specs ← catalog.tables options
  .ok ("\n".intercalate (specs.map TableSpec.sql))

end Catalog

namespace Schema

def ddl (schema : Schema) (options : CompileOptions) : Except Error String := do
  let catalog ← schema.catalog
  catalog.ddl options

/-- Reads a schema that is to be compiled. -/
def parse (text : String) : Except Error Schema := (ofText text).mapError .schemaText

end Schema

/-- Reads options of a compilation. -/
def CompileOptions.parse (text : String) : Except Error CompileOptions :=
  (ofText text).mapError .schemaText

/-- Reads a schema and compiles it. -/
def ddlOfText (schema : String) (options : CompileOptions) : Except Error String := do
  (← Schema.parse schema).ddl options

/-- Reads a schema, then the options, and compiles the one with the other. -/
def ddlOfTexts (schema options : String) : Except Error String := do
  let schema ← Schema.parse schema
  schema.ddl (← CompileOptions.parse options)

end RecordSql
