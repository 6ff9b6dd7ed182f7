import RecordSql.Proofs.Compile
import RecordSql.Proofs.Table.WellFormed

/-!
What the default model does to a table. A type is compiled with it as the type without the fields
that the model stands for is compiled alone, and then the columns of the model are put in front and
the trigger is added. So a schema that is compiled alone is compiled with the model as well.
-/

namespace RecordSql

/-- The type without the fields that the default model stands for. -/
def TypeDefinition.withoutModelFields (definition : TypeDefinition) : TypeDefinition :=
  { definition with
    fields := definition.fields.filter
      (fun field => field.name ∉ ["id", "created_at", "updated_at"]) }

def Schema.withoutModelFields (schema : Schema) : Schema :=
  ⟨schema.definitions.map TypeDefinition.withoutModelFields⟩

/-- The table with the columns of the default model in front and with its trigger. -/
def TableSpec.withDefaultModel (spec : TableSpec) : TableSpec :=
  { spec with
    columns := [.model .identity, .model .createdAt, .model .updatedAt] ++ spec.columns
    trigger := some ⟨spec.name⟩ }

theorem isReplaced_eq_false_iff (field : FieldDefinition) :
    field.isReplaced = false ↔ field.name ∉ ["id", "created_at", "updated_at"] := by
  rw [← Bool.true_and field.isReplaced, ← field.isKept_iff true]
  exact forall_prop_of_true rfl

theorem ownFields_withoutModelFields (definition : TypeDefinition) :
    definition.withoutModelFields.ownFields false = definition.ownFields true := by
  rw [TypeDefinition.ownFields_eq_filter definition]
  refine List.filter_congr (fun field _ => ?_)
  simp only [← isReplaced_eq_false_iff, Bool.true_and, Bool.decide_eq_false]

/-- With the model, the same parts make up the same table but for the columns and the trigger. -/
theorem tableOf_withDefaultModel (definition : TypeDefinition) (parts : List Contribution) :
    definition.tableOf true parts =
      (definition.withoutModelFields.tableOf false parts).withDefaultModel :=
  rfl

theorem table_withoutModelFields (definition : TypeDefinition) :
    definition.table true =
      (definition.withoutModelFields.table false).map TableSpec.withDefaultModel := by
  have contributions : definition.withoutModelFields.contribution = definition.contribution := rfl
  rw [table_eq_map, table_eq_map, ownFields_withoutModelFields, contributions]
  cases (definition.ownFields true).mapM definition.contribution with
  | error error => rfl
  | ok parts => exact congrArg Except.ok (tableOf_withDefaultModel definition parts)

theorem tables_withoutModelFields (schema : Schema) :
    schema.tables ⟨true⟩ =
      (schema.withoutModelFields.tables ⟨false⟩).map (List.map TableSpec.withDefaultModel) := by
  -- The catalog does not look at fields.
  have catalogs : schema.withoutModelFields.catalog =
      schema.catalog.map (Keyed.map TypeDefinition.withoutModelFields) :=
    schema.catalog_map _ (fun _ => rfl) (fun _ => rfl)
  unfold Schema.tables
  rw [catalogs]
  cases schema.catalog with
  | error error => rfl
  | ok catalog =>
    change catalog.tables ⟨true⟩ = (Catalog.tables (catalog.map _) ⟨false⟩).map _
    unfold Catalog.tables
    rw [Keyed.values_map, List.mapM_map, ← mapM_map_results]
    simp only [table_withoutModelFields, Function.comp_apply]

/-- Fewer fields of a type are left with the model than without it. -/
theorem exists_table_of_alone (definition : TypeDefinition)
    (assembled : ∃ spec, definition.table false = .ok spec) :
    ∃ spec, definition.table true = .ok spec := by
  cases used : definition.table true with
  | ok spec => exact ⟨spec, rfl⟩
  | error error =>
    obtain ⟨field, declared, -, faulty⟩ := (definition.exists_table_error_iff true).mp ⟨error, used⟩
    have alone : definition.IsFaulty false := ⟨field, declared, nofun, faulty⟩
    obtain ⟨_, failing⟩ := (definition.exists_table_error_iff false).mpr alone
    obtain ⟨spec, found⟩ := assembled
    rw [failing] at found
    contradiction

theorem exists_tables_of_alone (schema : Schema)
    (assembled : ∃ specs, schema.tables ⟨false⟩ = .ok specs) :
    ∃ specs, schema.tables ⟨true⟩ = .ok specs := by
  obtain ⟨specs, found⟩ := assembled
  rw [Schema.tables, bind_eq_ok] at found
  obtain ⟨catalog, extracted, all⟩ := found
  rw [Schema.tables, extracted]
  refine (exists_mapM_iff _ _).mpr (fun definition member => ?_)
  exact exists_table_of_alone definition ((exists_mapM_iff _ _).mp ⟨specs, all⟩ definition member)

/-- With the default model, a type fails as it does without the fields that the model stands for, and
its table is the one that it then has, with the columns of the model in front and the trigger. So it
is for all types of a schema at once, and a schema that is compiled without the model is compiled
with it. -/
theorem table_eq_withDefaultModel :
    (∀ definition : TypeDefinition,
      (∀ error, definition.table true = .error error ↔
        definition.withoutModelFields.table false = .error error) ∧
      (∀ spec, definition.table true = .ok spec ↔
        ∃ alone, definition.withoutModelFields.table false = .ok alone ∧ alone.trigger = none ∧
          (∀ column, .model column ∉ alone.columns) ∧ alone.withDefaultModel = spec)) ∧
    (∀ schema : Schema, schema.tables ⟨true⟩ =
      (schema.withoutModelFields.tables ⟨false⟩).map (List.map TableSpec.withDefaultModel)) ∧
    ∀ (schema : Schema) (text : String), schema.ddl ⟨false⟩ = .ok text →
      ∃ other, schema.ddl ⟨true⟩ = .ok other := by
  refine ⟨fun definition => ?_, tables_withoutModelFields, ?_⟩
  · rw [table_withoutModelFields]
    cases found : definition.withoutModelFields.table false with
    | error error => simp [Except.map]
    | ok alone =>
      obtain ⟨parts, all, rfl⟩ := (table_eq_ok_iff _ _ alone).mp found
      have noModel : ∀ column, .model column ∉ parts.flatMap Contribution.columns :=
        notMem_of_parts definition.withoutModelFields false parts all
      simp [Except.map, TypeDefinition.tableOf, noModel]
  · intro schema text compiled
    obtain ⟨specs, alone, -⟩ := (ddl_eq_ok_iff schema ⟨false⟩ text).mp compiled
    obtain ⟨used, found⟩ := exists_tables_of_alone schema ⟨specs, alone⟩
    exact ⟨_, (ddl_eq_ok_iff schema ⟨true⟩ _).mpr ⟨used, found, rfl⟩⟩

/-! Notes have an identity of their own, which gives way to that of the model. -/

def notes (identity : TypeReference) : Schema where
  definitions :=
    [{ kind := .object
       name := "Note"
       fields :=
         [{ name := "id", type := identity },
          { name := "text", type := .nonNull (.named "String"), directives := [{ name := "index" }] },
          { name := "belongsToUser", type := .named "User" }] }]

theorem table_eq_withDefaultModel_notes :
    ∃ text other, (notes (.named "Int")).ddl ⟨false⟩ = .ok text ∧
      (notes (.named "Int")).ddl ⟨true⟩ = .ok other := by
  have compiles : ((notes (.named "Int")).ddl ⟨false⟩).toOption.isSome = true := by decide +kernel
  cases compiled : (notes (.named "Int")).ddl ⟨false⟩ with
  | error error =>
    rw [compiled] at compiles
    contradiction
  | ok text =>
    obtain ⟨other, used⟩ := table_eq_withDefaultModel.2.2 (notes (.named "Int")) text compiled
    exact ⟨text, other, rfl, used⟩

/-- A faulty field that gives way to the model does no harm, so the converse fails. -/
example : ((notes (.list (.named "Int"))).ddl ⟨false⟩).toOption = none ∧
    ((notes (.list (.named "Int"))).ddl ⟨true⟩).toOption.isSome = true := by
  decide +kernel

end RecordSql
