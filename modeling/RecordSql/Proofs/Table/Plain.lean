import RecordSql.Proofs.Name.Plain
import RecordSql.Proofs.Schema.Literal
import RecordSql.Proofs.Table.Block
import RecordSql.Proofs.Table.Role
import RecordSql.Proofs.Table.Specification

/-!
Types whose names are plain have valid tables. The literals of defaults are free.
-/

namespace RecordSql
open Name (isNameChar_singularize isPlain_append isPlain_foreignKey isPlain_tableName tableName)

/-- The field, the type that it refers to and the column that it asks for have plain names. -/
def FieldDefinition.HasPlainNames (field : FieldDefinition) : Prop :=
  IsPlain field.name ∧ (∀ target ∈ field.type.target?, IsPlain target.name) ∧
    ∀ directive ∈ field.directives, directive.name = "foreignKey" →
      ∀ column ∈ directive.value?.bind Literal.text?, IsPlain column

instance (field : FieldDefinition) : Decidable field.HasPlainNames :=
  inferInstanceAs (Decidable (_ ∧ _ ∧ _))

def TypeDefinition.HasPlainNames (definition : TypeDefinition) : Prop :=
  IsPlain definition.name ∧ ∀ field ∈ definition.fields, field.HasPlainNames

instance (definition : TypeDefinition) : Decidable definition.HasPlainNames :=
  inferInstanceAs (Decidable (_ ∧ _))

def Schema.HasPlainNames (schema : Schema) : Prop :=
  ∀ definition ∈ schema.definitions, definition.HasPlainNames

instance (schema : Schema) : Decidable schema.HasPlainNames :=
  inferInstanceAs (Decidable (∀ _ ∈ _, _))

theorem isPlain_columnType (typeName : String) (plain : IsPlain typeName) :
    IsPlain (columnType typeName) := by
  have scalars : ∀ scalar : Scalar, IsPlain scalar.columnType := by
    intro scalar
    cases scalar <;> decide
  unfold columnType
  split
  · exact scalars _
  · exact plain

/-! Modifiers. -/

namespace Modifiers

structure Valid (modifiers : Modifiers) : Prop where
  clauses : ∀ clause ∈ modifiers.clauses, IsDeclaredClause clause
  foreignKey : ∀ column ∈ modifiers.foreignKey, IsPlain column

theorem valid_add (modifiers : Modifiers) (modifier : Modifier) (valid : modifiers.Valid)
    (plain : ∀ column, modifier = .foreignKey column → IsPlain column) :
    (modifiers.add modifier).Valid := by
  have appended (clause : String) (declared : IsDeclaredClause clause) :
      ∀ other ∈ modifiers.clauses ++ [clause], IsDeclaredClause other :=
    List.forall_mem_append.mpr ⟨valid.clauses, List.forall_mem_singleton.mpr declared⟩
  cases modifier with
  | default value => exact ⟨appended _ (isDeclared_default value), valid.foreignKey⟩
  | unique => exact ⟨appended _ (Or.inl rfl), valid.foreignKey⟩
  | index => exact ⟨valid.clauses, valid.foreignKey⟩
  | primary => exact ⟨valid.clauses, valid.foreignKey⟩
  | autoIncrement => exact ⟨valid.clauses, valid.foreignKey⟩
  | foreignKey column =>
    refine ⟨valid.clauses, ?_⟩
    intro other member
    cases member
    exact plain column rfl

theorem valid_foldl (list : List Modifier) (start : Modifiers) (valid : start.Valid)
    (plain : ∀ column, .foreignKey column ∈ list → IsPlain column) :
    (list.foldl add start).Valid := by
  induction list generalizing start with
  | nil => exact valid
  | cons modifier list ih =>
    have first := valid_add start modifier valid
      (fun column same => plain column (same ▸ List.mem_cons_self ..))
    exact ih _ first (fun column member => plain column (List.mem_cons_of_mem _ member))

theorem valid_ofField (type : String) (field : FieldDefinition) (modifiers : Modifiers)
    (plain : field.HasPlainNames) (found : ofField type field = .ok modifiers) :
    modifiers.Valid := by
  obtain ⟨list, rfl, meant⟩ := exists_modifiers type field modifiers found
  refine valid_foldl list {} ⟨List.forall_mem_nil _, nofun⟩ ?_
  intro column member
  obtain ⟨directive, inDirectives, meaning⟩ := meant _ member
  cases meaning with
  | foreignKey _ named given =>
    exact plain.2.2 directive inDirectives named column (by rw [given]; rfl)

end Modifiers

/-! Contributions. -/

structure Contribution.Valid (part : Contribution) : Prop where
  columns : ∀ column ∈ part.columns, column.Valid
  constraints : ∀ constraint ∈ part.constraints, constraint.Valid
  joinTables : ∀ join ∈ part.joinTables, join.Valid
  indexes : ∀ entry ∈ part.indexes, IsPlain entry.table ∧ IsPlain entry.column

theorem valid_between (owner target : String) (ownerPlain : IsPlain owner)
    (targetPlain : IsPlain target) :
    (JoinTable.between (tableName owner) (tableName target)).Valid where
  name := by
    have separated := isPlain_append "_" (by decide) (isPlain_tableName target targetPlain)
    unfold JoinTable.between
    rw [String.append_assoc]
    exact isPlain_append _ (isNameChar_singularize owner ownerPlain) separated
  ownerTable := isPlain_tableName owner ownerPlain
  ownerKey := isPlain_foreignKey owner ownerPlain
  targetTable := isPlain_tableName target targetPlain
  targetKey := isPlain_foreignKey target targetPlain

theorem valid_relation (table typeName : String) (column : Option String)
    (plain : IsPlain typeName) (columnPlain : ∀ name ∈ column, IsPlain name) :
    ((ClassifiedField.belongsTo (.toType typeName column)).contribution table).Valid ∧
      ((ClassifiedField.associateTo (.toType typeName column)).contribution table).Valid := by
  have inColumn : IsPlain (ForeignKey.toType typeName column).column := by
    unfold ForeignKey.toType
    cases column with
    | none => exact isPlain_foreignKey typeName plain
    | some name => exact columnPlain name rfl
  have inTable : IsPlain (ForeignKey.toType typeName column).references :=
    isPlain_tableName typeName plain
  constructor <;>
  exact ⟨List.forall_mem_singleton.mpr inColumn, List.forall_mem_singleton.mpr ⟨inColumn, inTable⟩,
    List.forall_mem_nil _, List.forall_mem_nil _⟩

theorem valid_scalar (table : String) (column : Column) (primary : Bool) (index : Option Bool)
    (valid : column.Valid) (plain : IsPlain table) :
    ((ClassifiedField.scalar column primary index).contribution table).Valid where
  columns := by
    refine List.forall_mem_cons.mpr ⟨valid, ?_⟩
    split
    · exact List.forall_mem_singleton.mpr valid.name
    · exact List.forall_mem_nil _
  constraints := List.forall_mem_nil _
  joinTables := List.forall_mem_nil _
  indexes := by
    intro entry member
    obtain ⟨unique, -, rfl⟩ := List.mem_map.mp member
    exact ⟨plain, valid.name⟩

theorem valid_contribution (definition : TypeDefinition) (field : FieldDefinition)
    (part : Contribution) (plain : IsPlain definition.name) (fieldPlain : field.HasPlainNames)
    (found : definition.contribution field = .ok part) : part.Valid := by
  obtain ⟨target, modifiers, stored, asked, rfl⟩ := (contribution_eq_ok_iff ..).mp found
  have table := isPlain_tableName definition.name plain
  have targetPlain := fieldPlain.2.1 target stored
  have valid := Modifiers.valid_ofField definition.name field modifiers fieldPlain asked
  have relation := valid_relation (tableName definition.name) target.name modifiers.foreignKey
    targetPlain valid.foreignKey
  unfold FieldDefinition.inRole
  cases Role.ofName field.name with
  | scalar =>
    exact valid_scalar _ _ _ _
      ⟨fieldPlain.1, isPlain_columnType target.name targetPlain, valid.clauses⟩ table
  | belongsTo => exact relation.1
  | associateTo => exact relation.2
  | hasAndBelongsToMany =>
    exact ⟨List.forall_mem_nil _, List.forall_mem_nil _,
      List.forall_mem_singleton.mpr (valid_between definition.name target.name plain targetPlain),
      List.forall_mem_nil _⟩

theorem valid_tableOf (definition : TypeDefinition) (useDefaultModel : Bool)
    (parts : List Contribution) (plain : IsPlain definition.name)
    (valid : ∀ part ∈ parts, part.Valid) :
    (definition.tableOf useDefaultModel parts).Valid where
  name := isPlain_tableName definition.name plain
  columns := by
    refine List.forall_mem_append.mpr ⟨?_, List.forall_mem_flatMap.mpr
      (fun part member => (valid part member).columns)⟩
    split
    · exact List.forall_mem_map.mpr (fun _ _ => trivial)
    · exact List.forall_mem_nil _
  constraints := List.forall_mem_flatMap.mpr (fun part member => (valid part member).constraints)
  trigger := by
    intro renewal member
    simp only [TypeDefinition.tableOf, Option.ite_none_right_eq_some, Option.mem_def,
      Option.some.injEq] at member
    exact member.2 ▸ isPlain_tableName definition.name plain
  joinTables := List.forall_mem_flatMap.mpr (fun part member => (valid part member).joinTables)
  indexes := List.forall_mem_flatMap.mpr (fun part member => (valid part member).indexes)

theorem valid_of_table (definition : TypeDefinition) (useDefaultModel : Bool) (spec : TableSpec)
    (plain : definition.HasPlainNames) (found : definition.table useDefaultModel = .ok spec) :
    spec.Valid := by
  obtain ⟨parts, all, rfl⟩ := (table_eq_ok_iff definition useDefaultModel spec).mp found
  refine valid_tableOf definition useDefaultModel parts plain.1 ?_
  intro part member
  obtain ⟨field, declared, contributed⟩ :=
    definition.exists_field_of_part useDefaultModel parts all part member
  exact valid_contribution definition field part plain.1 (plain.2 field declared) contributed

end RecordSql
