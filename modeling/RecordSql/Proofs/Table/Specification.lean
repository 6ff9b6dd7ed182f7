import RecordSql.Proofs.Except
import RecordSql.Table.Specification

/-!
A table is specified exactly if every field of its own adds something to it. What the fields add one
after the other comes to lists, one behind the other.
-/

namespace RecordSql
open Name (tableName)

/-- The fields that are left to a table beside the default model, if it is used. -/
def TypeDefinition.ownFields (definition : TypeDefinition) (useDefaultModel : Bool) :
    List FieldDefinition :=
  if useDefaultModel then definition.fields.filter (fun field => !field.isReplaced)
  else definition.fields

theorem TypeDefinition.ownFields_eq_filter (definition : TypeDefinition) (useDefaultModel : Bool) :
    definition.ownFields useDefaultModel =
      definition.fields.filter (fun field => !(useDefaultModel && field.isReplaced)) := by
  cases useDefaultModel <;> simp [ownFields]

/-- The table to which the fields of a type add the given parts. -/
def TypeDefinition.tableOf (definition : TypeDefinition) (useDefaultModel : Bool)
    (parts : List Contribution) : TableSpec where
  name := tableName definition.name
  columns :=
    (if useDefaultModel then ModelColumn.all.map ColumnLine.model else []) ++
      parts.flatMap Contribution.columns
  constraints := parts.flatMap Contribution.constraints
  trigger := if useDefaultModel then some ⟨tableName definition.name⟩ else none
  joinTables := parts.flatMap Contribution.joinTables
  indexes := parts.flatMap Contribution.indexes

/-- Every part of a table comes from a field that is left to it. -/
theorem TypeDefinition.exists_ownField_of_part (definition : TypeDefinition)
    (useDefaultModel : Bool) (parts : List Contribution)
    (all : List.Forall₂ (fun field part => definition.contribution field = .ok part)
      (definition.ownFields useDefaultModel) parts) (part : Contribution) (member : part ∈ parts) :
    ∃ field ∈ definition.ownFields useDefaultModel, definition.contribution field = .ok part :=
  exists_of_mem_mapM _ _ _ ((mapM_eq_ok_iff _ _ _).mpr all) part member

theorem TypeDefinition.exists_field_of_part (definition : TypeDefinition) (useDefaultModel : Bool)
    (parts : List Contribution)
    (all : List.Forall₂ (fun field part => definition.contribution field = .ok part)
      (definition.ownFields useDefaultModel) parts) (part : Contribution) (member : part ∈ parts) :
    ∃ field ∈ definition.fields, definition.contribution field = .ok part := by
  obtain ⟨field, own, contributed⟩ :=
    definition.exists_ownField_of_part useDefaultModel parts all part member
  rw [ownFields_eq_filter] at own
  exact ⟨field, List.mem_of_mem_filter own, contributed⟩

theorem TableSpec.foldl_add (spec : TableSpec) (parts : List Contribution) :
    parts.foldl TableSpec.add spec =
      { spec with
        columns := spec.columns ++ parts.flatMap Contribution.columns
        constraints := spec.constraints ++ parts.flatMap Contribution.constraints
        joinTables := spec.joinTables ++ parts.flatMap Contribution.joinTables
        indexes := spec.indexes ++ parts.flatMap Contribution.indexes } := by
  induction parts generalizing spec with
  | nil => simp
  | cons part parts ih =>
    rw [List.foldl_cons, ih]
    simp [TableSpec.add]

/-- Passing fields over is leaving them out beforehand. -/
theorem table_eq_foldlM (definition : TypeDefinition) (useDefaultModel : Bool) :
    definition.table useDefaultModel =
      (definition.ownFields useDefaultModel).foldlM (fun spec field => do
          let part ← definition.contribution field
          .ok (spec.add part)) (definition.bareTable useDefaultModel) := by
  rw [TypeDefinition.ownFields_eq_filter, List.foldlM_filter, TypeDefinition.table]
  congr 1
  funext spec field
  rw [TypeDefinition.addToTable]
  cases useDefaultModel && field.isReplaced <;> rfl

/-- Going through the fields in order comes to the table of all their parts, or to the first error
among them. -/
theorem table_eq_map (definition : TypeDefinition) (useDefaultModel : Bool) :
    definition.table useDefaultModel =
      ((definition.ownFields useDefaultModel).mapM definition.contribution).map
        (definition.tableOf useDefaultModel) := by
  have together : (fun parts : List Contribution =>
      parts.foldl TableSpec.add (definition.bareTable useDefaultModel)) =
        definition.tableOf useDefaultModel := by
    funext parts
    exact TableSpec.foldl_add _ parts
  rw [table_eq_foldlM, foldlM_eq_map_mapM, together]

theorem table_eq_ok_iff (definition : TypeDefinition) (useDefaultModel : Bool) (spec : TableSpec) :
    definition.table useDefaultModel = .ok spec ↔
      ∃ parts, List.Forall₂ (fun field part => definition.contribution field = .ok part)
        (definition.ownFields useDefaultModel) parts ∧
          definition.tableOf useDefaultModel parts = spec := by
  rw [table_eq_map, map_eq_ok]
  simp only [mapM_eq_ok_iff]

theorem table_name {definition : TypeDefinition} {useDefaultModel : Bool} {spec : TableSpec}
    (assembled : definition.table useDefaultModel = .ok spec) :
    spec.name = tableName definition.name := by
  obtain ⟨parts, -, rfl⟩ := (table_eq_ok_iff definition useDefaultModel spec).mp assembled
  rfl

end RecordSql
