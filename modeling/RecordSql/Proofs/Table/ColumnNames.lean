import Mathlib.Data.List.Nodup
import RecordSql.Proofs.Table.Failure
import RecordSql.Proofs.Table.Role

/-!
Names of the columns of a table. Fields with distinct names are stored in columns with distinct
names, but keys are stored under names that a directive gives or the type that they refer to. So a
table has two columns of one name exactly if keys meet each other, another field, or a column of the
default model.
-/

namespace RecordSql
open Name (foreignKey tableName)

/-- The column that a line defines. The mark of a primary key defines none. -/
def ColumnLine.definedName? : ColumnLine → Option String
  | model column => some column.name
  | declared column => some column.name
  | foreignKey name _ => some name
  | primaryKey _ => none

def TableSpec.columnNames (spec : TableSpec) : List String :=
  spec.columns.filterMap ColumnLine.definedName?

namespace FieldDefinition

/-- The column of a key: the one that a directive names, or else the usual one. -/
def keyColumn? (field : FieldDefinition) : Option String :=
  if field.IsKey then
    field.namedKey?.or (field.type.target?.map (fun target => foreignKey (tableName target.name)))
  else none

/-- The column that a field is stored in. Relations to many rows have none. -/
def columnName? (field : FieldDefinition) : Option String :=
  if field.IsRelation then field.keyColumn? else some field.name

end FieldDefinition

/-- The columns of the keys of a type, in the order of the fields. -/
def TypeDefinition.keyColumns (definition : TypeDefinition) (useDefaultModel : Bool) :
    List String :=
  (definition.ownFields useDefaultModel).filterMap FieldDefinition.keyColumn?

theorem isRelation_of_isKey (field : FieldDefinition) (key : field.IsKey) : field.IsRelation := by
  rw [isKey_iff_role] at key
  rw [isRelation_iff_role]
  rcases key with role | role <;> simp [role]

/-! What the columns of a table are called. -/

theorem definedNames_of_contribution (definition : TypeDefinition) (field : FieldDefinition)
    (part : Contribution) (found : definition.contribution field = .ok part) :
    part.columns.filterMap ColumnLine.definedName? = field.columnName?.toList := by
  obtain ⟨target, modifiers, stored, asked, rfl⟩ := (contribution_eq_ok_iff ..).mp found
  have key : field.namedKey?.or
      (field.type.target?.map (fun target => foreignKey (tableName target.name))) =
        some (ForeignKey.toType target.name modifiers.foreignKey).column := by
    rw [foreignKey_eq_namedKey definition.name field modifiers asked, stored]
    cases field.namedKey? <;> rfl
  unfold FieldDefinition.columnName? FieldDefinition.keyColumn?
  rw [key, if_congr (isRelation_iff_role field) rfl rfl, if_congr (isKey_iff_role field) rfl rfl]
  unfold FieldDefinition.inRole
  cases Role.ofName field.name with
  | scalar => cases modifiers.primary <;> rfl
  | belongsTo => rfl
  | associateTo => rfl
  | hasAndBelongsToMany => rfl

/-- A table has the columns of the default model, if it is used, and then those of the fields. -/
theorem columnNames_of_table (definition : TypeDefinition) (useDefaultModel : Bool)
    (spec : TableSpec) (assembled : definition.table useDefaultModel = .ok spec) :
    spec.columnNames = (if useDefaultModel then ["id", "created_at", "updated_at"] else []) ++
      (definition.ownFields useDefaultModel).filterMap FieldDefinition.columnName? := by
  obtain ⟨parts, all, rfl⟩ := (table_eq_ok_iff definition useDefaultModel spec).mp assembled
  have model : (if useDefaultModel then ModelColumn.all.map ColumnLine.model else []).filterMap
      ColumnLine.definedName? =
        if useDefaultModel then ["id", "created_at", "updated_at"] else [] := by
    cases useDefaultModel <;> rfl
  have own : (parts.flatMap Contribution.columns).filterMap ColumnLine.definedName? =
      (definition.ownFields useDefaultModel).filterMap FieldDefinition.columnName? := by
    rw [List.filterMap_flatMap, List.filterMap_eq_flatMap_toList]
    exact flatMap_of_forall₂ all _ _ (definedNames_of_contribution definition)
  rw [TableSpec.columnNames, TypeDefinition.tableOf, List.filterMap_append, model, own]

/-! When they are distinct. -/

/-- The usual column for a key is called like no column of the default model. -/
theorem foreignKey_not_model (table : String) :
    foreignKey table ∉ ["id", "created_at", "updated_at"] := by
  intro member
  have apart : ∀ name ∈ ["id", "created_at", "updated_at"], ¬"_id".toList <:+ name.toList := by
    decide
  exact Name.foreignKey_ne (apart _ member) table rfl

theorem keyColumn?_eq_none (field : FieldDefinition) (other : ¬field.IsRelation) :
    field.keyColumn? = none :=
  if_neg (fun key => other (isRelation_of_isKey field key))

/-- The columns of the fields are those of the fields that are no relations, and the keys. -/
theorem perm_columnName (fields : List FieldDefinition) :
    (fields.filterMap FieldDefinition.columnName?).Perm
      ((fields.filter (fun field => ¬field.IsRelation)).map FieldDefinition.name ++
        fields.filterMap FieldDefinition.keyColumn?) := by
  induction fields with
  | nil => exact List.Perm.refl []
  | cons field fields ih =>
    by_cases relation : field.IsRelation
    · have same : field.columnName? = field.keyColumn? := if_pos relation
      rw [List.filter_cons_of_neg (by simpa using relation)]
      cases key : field.keyColumn? with
      | none =>
        rw [List.filterMap_cons_none key, List.filterMap_cons_none (same.trans key)]
        exact ih
      | some column =>
        rw [List.filterMap_cons_some key, List.filterMap_cons_some (same.trans key)]
        exact (ih.cons column).trans List.perm_middle.symm
    · have own : field.columnName? = some field.name := if_neg relation
      rw [List.filter_cons_of_pos (by simpa using relation), List.filterMap_cons_some own,
        List.filterMap_cons_none (keyColumn?_eq_none field relation), List.map_cons,
        List.cons_append]
      exact ih.cons field.name

/-- If the names of the fields are distinct, so are their columns, unless a key meets another key or
a field that is no relation. -/
theorem nodup_columnName_iff (fields : List FieldDefinition)
    (distinct : (fields.map FieldDefinition.name).Nodup) :
    (fields.filterMap FieldDefinition.columnName?).Nodup ↔
      (fields.filterMap FieldDefinition.keyColumn?).Nodup ∧
        ∀ field ∈ fields, ¬field.IsRelation →
          field.name ∉ fields.filterMap FieldDefinition.keyColumn? := by
  have declared : ((fields.filter (fun field => ¬field.IsRelation)).map
      FieldDefinition.name).Nodup :=
    distinct.sublist (List.filter_sublist.map FieldDefinition.name)
  rw [(perm_columnName fields).nodup_iff, List.nodup_append']
  simp only [declared, true_and, List.disjoint_left, List.mem_map, List.mem_filter,
    decide_eq_true_eq]
  constructor
  · rintro ⟨keys, apart⟩
    exact ⟨keys, fun field member other => apart ⟨field, ⟨member, other⟩, rfl⟩⟩
  · rintro ⟨keys, apart⟩
    refine ⟨keys, ?_⟩
    rintro _ ⟨field, ⟨member, other⟩, rfl⟩
    exact apart field member other

/-- Only a key that a directive names can meet a column of the default model. -/
theorem disjoint_model_iff (fields : List FieldDefinition)
    (kept : ∀ field ∈ fields, field.name ∉ ["id", "created_at", "updated_at"]) :
    List.Disjoint ["id", "created_at", "updated_at"]
        (fields.filterMap FieldDefinition.columnName?) ↔
      ∀ field ∈ fields, field.IsKey → ∀ column ∈ field.namedKey?,
        column ∉ ["id", "created_at", "updated_at"] := by
  constructor
  · intro apart field member key column named reserved
    have own : field.columnName? = some column := by
      rw [FieldDefinition.columnName?, if_pos (isRelation_of_isKey field key),
        FieldDefinition.keyColumn?, if_pos key, named]
      rfl
    exact apart reserved (List.mem_filterMap.mpr ⟨field, member, own⟩)
  · intro apart name reserved member
    obtain ⟨field, inFields, own⟩ := List.mem_filterMap.mp member
    rw [FieldDefinition.columnName?] at own
    split at own
    · rw [FieldDefinition.keyColumn?] at own
      split at own
      · next key =>
        rcases Option.or_eq_some_iff.mp own with named | ⟨-, usual⟩
        · exact apart field inFields key name named reserved
        · obtain ⟨target, -, rfl⟩ := Option.map_eq_some_iff.mp usual
          exact foreignKey_not_model _ reserved
      · contradiction
    · cases own
      exact kept field inFields reserved

/-- If the names of the fields are distinct, those of the columns are distinct exactly if no key
meets another one, nor a field that is no relation, and no directive puts a key into a column of the
default model. -/
theorem nodup_columnNames_iff (definition : TypeDefinition) (useDefaultModel : Bool)
    (spec : TableSpec) (assembled : definition.table useDefaultModel = .ok spec)
    (distinct : (definition.fields.map FieldDefinition.name).Nodup) :
    spec.columnNames = (if useDefaultModel then ["id", "created_at", "updated_at"] else []) ++
        (definition.ownFields useDefaultModel).filterMap FieldDefinition.columnName? ∧
      (spec.columnNames.Nodup ↔
        (definition.keyColumns useDefaultModel).Nodup ∧
          (∀ field ∈ definition.ownFields useDefaultModel, ¬field.IsRelation →
            field.name ∉ definition.keyColumns useDefaultModel) ∧
          (useDefaultModel = true → ∀ field ∈ definition.ownFields useDefaultModel, field.IsKey →
            ∀ column ∈ field.namedKey?, column ∉ ["id", "created_at", "updated_at"])) := by
  have names := columnNames_of_table definition useDefaultModel spec assembled
  refine ⟨names, ?_⟩
  have own : ((definition.ownFields useDefaultModel).map FieldDefinition.name).Nodup := by
    rw [TypeDefinition.ownFields_eq_filter]
    exact distinct.sublist (List.filter_sublist.map FieldDefinition.name)
  rw [names, List.nodup_append', nodup_columnName_iff _ own, TypeDefinition.keyColumns]
  cases useDefaultModel with
  | false => simp
  | true =>
    have kept : ∀ field ∈ definition.ownFields true,
        field.name ∉ ["id", "created_at", "updated_at"] :=
      fun field member => isKept_of_mem_ownFields definition true field member rfl
    rw [if_pos rfl, disjoint_model_iff _ kept]
    have model : ["id", "created_at", "updated_at"].Nodup := by decide
    simp only [model, true_and, forall_const, and_assoc]

/-! An article has an author and an editor, and both are users. -/

def article (editor : List Directive) : TypeDefinition where
  kind := .object
  name := "Article"
  fields :=
    [{ name := "id", type := .named "Int" },
     { name := "title", type := .named "String" },
     { name := "belongsToAuthor", type := .named "User" },
     { name := "associateToEditor", type := .named "User", directives := editor }]

def editorKey : Directive where
  name := "foreignKey"
  arguments := [⟨"value", .string "editor_id"⟩]

theorem nodup_columnNames_article :
    ∃ spec, (article [editorKey]).table true = .ok spec ∧
      spec.columnNames = ["id", "created_at", "updated_at", "title", "user_id", "editor_id"] ∧
      (article [editorKey]).keyColumns true = ["user_id", "editor_id"] ∧ spec.columnNames.Nodup :=
  ⟨_, rfl, rfl, rfl,
    (nodup_columnNames_iff (article [editorKey]) true _ rfl (by decide)).2.mpr (by decide)⟩

/-- Without a column of its own, the key to the editor meets the one to the author. -/
theorem columnNames_article :
    ((article []).fields.map FieldDefinition.name).Nodup ∧
      ∃ spec, (article []).table false = .ok spec ∧
        spec.columnNames = ["id", "title", "user_id", "user_id"] ∧ ¬spec.columnNames.Nodup :=
  ⟨by decide, _, rfl, rfl, by decide⟩

end RecordSql
