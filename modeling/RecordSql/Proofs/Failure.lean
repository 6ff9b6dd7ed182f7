import RecordSql.Compile
import RecordSql.Proofs.Schema.RecordTypes
import RecordSql.Proofs.Table.Failure

/-!
When the compilation of a schema fails, and with which error. The kinds of all definitions are
looked at before any field. Nothing is reported of a definition that is passed over, of one that is
declared again later or of a field that is dropped.
-/

namespace RecordSql

/-- The error of a schema: that of its first unknown definition, or else that of the first faulty
field of the first faulty record type. -/
inductive Schema.Fails (schema : Schema) (useDefaultModel : Bool) : Error → Prop where
  | unknownKind (definition : TypeDefinition) (text : String)
      (first : First TypeDefinition.IsUnknown schema.definitions definition)
      (kind : definition.kind = .other text) :
      Fails schema useDefaultModel (.unknownKind definition.name text)
  | field (known : ∀ definition ∈ schema.definitions, ¬definition.IsUnknown)
      (definition : TypeDefinition) (field : FieldDefinition) (error : Error)
      (firstType : First (fun type => type.IsFaulty useDefaultModel) schema.recordTypes definition)
      (firstField : First (fun field => field.IsKept useDefaultModel ∧ field.IsFaulty)
        definition.fields field)
      (fails : field.Fails definition.name error) : Fails schema useDefaultModel error

theorem tables_eq_error_iff (schema : Schema) (catalog : Catalog) (options : CompileOptions)
    (extracted : schema.catalog = .ok catalog) (error : Error) :
    catalog.ddl options = .error error ↔
      ∃ definition, First (fun type => type.IsFaulty options.useDefaultModel) schema.recordTypes
          definition ∧
        definition.table options.useDefaultModel = .error error := by
  have faulty : (fun definition : TypeDefinition => ∃ failure,
      definition.table options.useDefaultModel = .error failure) =
        (fun type => type.IsFaulty options.useDefaultModel) := by
    funext definition
    rw [definition.exists_table_error_iff]
  rw [Catalog.ddl, bind_eq_error_iff, Catalog.tables,
    Schema.values_of_catalog schema catalog extracted, mapM_eq_error_iff, faulty]
  simp only [reduceCtorEq, and_false, exists_false, or_false]

theorem ddl_eq_error_iff_fails (schema : Schema) (options : CompileOptions) (error : Error) :
    schema.ddl options = .error error ↔ schema.Fails options.useDefaultModel error := by
  rw [Schema.ddl, bind_eq_error_iff, schema.catalog_eq_error_iff]
  constructor
  · rintro (⟨definition, text, first, kind, rfl⟩ | ⟨catalog, extracted, failing⟩)
    · exact .unknownKind definition text first kind
    · obtain ⟨definition, firstType, table⟩ :=
        (tables_eq_error_iff schema catalog options extracted error).mp failing
      obtain ⟨field, firstField, fails⟩ := (definition.table_eq_error_iff _ error).mp table
      exact .field (Schema.known_of_catalog schema catalog extracted) definition field error
        firstType firstField fails
  · intro fails
    cases fails with
    | unknownKind definition text first kind => exact Or.inl ⟨definition, text, first, kind, rfl⟩
    | field known definition field _ firstType firstField fails =>
      have extracted := schema.catalog_of_known known
      have table := (definition.table_eq_error_iff _ error).mpr ⟨field, firstField, fails⟩
      exact Or.inr ⟨_, extracted,
        (tables_eq_error_iff schema _ options extracted error).mpr ⟨definition, firstType, table⟩⟩

/-- A compilation fails exactly if there is an unknown definition, or a record type, which is the
last under its name, with a faulty field that is not dropped. What it reports is the first unknown
definition, even behind faulty fields, and otherwise the first faulty field in the order of the
catalog. -/
theorem ddl_eq_error_iff (schema : Schema) (options : CompileOptions) :
    ((∃ error, schema.ddl options = .error error) ↔
      (∃ definition ∈ schema.definitions, definition.IsUnknown) ∨
        ∃ definition, schema.lastRecord? definition.name = some definition ∧
          ∃ field ∈ definition.fields, field.IsKept options.useDefaultModel ∧ field.IsFaulty) ∧
      ∀ error, schema.ddl options = .error error ↔ schema.Fails options.useDefaultModel error := by
  refine ⟨?_, ddl_eq_error_iff_fails schema options⟩
  simp only [ddl_eq_error_iff_fails, ← Schema.mem_recordTypes_iff]
  constructor
  · rintro ⟨error, fails⟩
    cases fails with
    | unknownKind definition text first kind => exact Or.inl ⟨definition, first.mem, first.own⟩
    | field known definition field _ firstType firstField fails =>
      exact Or.inr ⟨definition, firstType.mem, field, firstField.mem, firstField.own⟩
  · intro cause
    by_cases known : ∀ definition ∈ schema.definitions, ¬definition.IsUnknown
    · obtain ⟨definition, member, unknown⟩ | faulty := cause
      · exact absurd unknown (known definition member)
      · obtain ⟨definition, firstType⟩ := (First.exists_iff _ _).mpr faulty
        obtain ⟨field, firstField⟩ := (First.exists_iff _ _).mpr firstType.own
        obtain ⟨error, fails⟩ := (field.exists_fails_iff definition.name).mpr firstField.own.2
        exact ⟨error, .field known definition field error firstType firstField fails⟩
    · push Not at known
      obtain ⟨definition, first⟩ := (First.exists_iff _ _).mpr known
      obtain ⟨-, text, kind⟩ := first.own
      exact ⟨_, .unknownKind definition text first kind⟩

example :
    ({ definitions :=
        [{ kind := .object
           name := "User"
           fields := [{ name := "tags", type := .list (.named "Tag") }] },
         { kind := .other "EnumTypeDefinition", name := "Status" }] } : Schema).ddl ⟨true⟩ =
      .error (.unknownKind "Status" "EnumTypeDefinition") := by
  decide

end RecordSql
