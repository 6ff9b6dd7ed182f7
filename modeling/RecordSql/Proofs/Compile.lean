import RecordSql.Compile
import RecordSql.Proofs.Schema.Catalog
import RecordSql.Proofs.Table.Plain

/-!
The statements of a schema determine its tables.
-/

namespace RecordSql

/-- The specified tables of a schema. -/
def Schema.tables (schema : Schema) (options : CompileOptions) : Except Error (List TableSpec) := do
  (← schema.catalog).tables options

/-- A schema is compiled exactly if its tables are specified, and to their text. -/
theorem ddl_eq_ok_iff (schema : Schema) (options : CompileOptions) (text : String) :
    schema.ddl options = .ok text ↔ ∃ specs, schema.tables options = .ok specs ∧
      "\n".intercalate (specs.map TableSpec.sql) = text := by
  unfold Schema.ddl Schema.tables
  cases schema.catalog with
  | error error => exact ⟨nofun, nofun⟩
  | ok catalog =>
    change catalog.ddl options = .ok text ↔ ∃ specs, catalog.tables options = .ok specs ∧ _
    rw [Catalog.ddl, bind_eq_ok]
    simp only [Except.ok.injEq]

theorem valid_of_tables (schema : Schema) (options : CompileOptions) (specs : List TableSpec)
    (plain : schema.HasPlainNames) (specified : schema.tables options = .ok specs) :
    ∀ spec ∈ specs, spec.Valid := by
  rw [Schema.tables, bind_eq_ok] at specified
  obtain ⟨catalog, assembled, all⟩ := specified
  intro spec member
  obtain ⟨definition, inCatalog, found⟩ := exists_of_mem_mapM _ _ _ all spec member
  exact valid_of_table definition _ spec
    (plain definition (mem_of_catalog schema catalog assembled definition inCatalog)) found

/-- Schemas with plain names that are compiled to one text have the same tables, but that the key of
a relation is read as an integer column. The literals of defaults are arbitrary. -/
theorem readings_of_ddl (left right : Schema) (leftOptions rightOptions : CompileOptions)
    (text : String) (leftPlain : left.HasPlainNames) (rightPlain : right.HasPlainNames)
    (leftCompiled : left.ddl leftOptions = .ok text)
    (rightCompiled : right.ddl rightOptions = .ok text) :
    ∃ leftSpecs rightSpecs, left.tables leftOptions = .ok leftSpecs ∧
      right.tables rightOptions = .ok rightSpecs ∧
        leftSpecs.map TableSpec.reading = rightSpecs.map TableSpec.reading := by
  obtain ⟨leftSpecs, leftFound, rfl⟩ := (ddl_eq_ok_iff left leftOptions text).mp leftCompiled
  obtain ⟨rightSpecs, rightFound, same⟩ := (ddl_eq_ok_iff right rightOptions _).mp rightCompiled
  exact ⟨leftSpecs, rightSpecs, leftFound, rightFound, readings_of_sql
    (valid_of_tables left leftOptions leftSpecs leftPlain leftFound)
    (valid_of_tables right rightOptions rightSpecs rightPlain rightFound) same.symm⟩

/-! Two fields of one column, in either order. The default before them looks like the end of a
table. -/

def author : FieldDefinition := { name := "author_id", type := .nonNull (.named "Int") }

def authorship : FieldDefinition where
  name := "belongsToUser"
  type := .named "User"
  directives := [{ name := "foreignKey", arguments := [⟨"value", .string "author_id"⟩] }]

def articles (first second : FieldDefinition) : Schema :=
  let title : FieldDefinition :=
    { name := "title"
      type := .named "String"
      directives :=
        [{ name := "default", arguments := [⟨"value", .string "\" ,\n    author TEXT\n);"⟩] }] }
  { definitions := [{ kind := .object, name := "Article", fields := [title, first, second] }] }

def articlesText : String :=
  "\nCREATE TABLE articles(\n    title TEXT DEFAULT \"\"\" ,\n    author TEXT\n);\" ,\n" ++
    "    author_id INTEGER NOT NULL ,\n    author_id INTEGER NOT NULL ,\n" ++
    "    FOREIGN KEY (author_id) REFERENCES users (id) ON DELETE CASCADE\n);\n"

theorem readings_of_ddl_articles :
    (articles author authorship).ddl ⟨false⟩ = .ok articlesText ∧
      (articles authorship author).ddl ⟨false⟩ = .ok articlesText ∧
        ∃ leftSpecs rightSpecs, (articles author authorship).tables ⟨false⟩ = .ok leftSpecs ∧
          (articles authorship author).tables ⟨false⟩ = .ok rightSpecs ∧
            leftSpecs.map TableSpec.reading = rightSpecs.map TableSpec.reading := by
  have left : (articles author authorship).ddl ⟨false⟩ = .ok articlesText := by decide +kernel
  have right : (articles authorship author).ddl ⟨false⟩ = .ok articlesText := by decide +kernel
  exact ⟨left, right, readings_of_ddl _ _ ⟨false⟩ ⟨false⟩ articlesText (by decide) (by decide) left
    right⟩

end RecordSql
