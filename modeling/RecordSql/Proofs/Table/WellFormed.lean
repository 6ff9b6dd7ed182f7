import RecordSql.Proofs.Table.Failure
import RecordSql.Proofs.Table.Role

/-!
The parts of an assembled table agree with each other: keys with constraints, marks of primary keys
with their columns, indexes with what they index. Each field sees to this for what it adds, and
nothing is lost when the contributions are put together.
-/

namespace RecordSql
open Name (foreignKey tableName)

/-- Whether a line is the column of a relation. -/
def ColumnLine.isKey : ColumnLine → Bool
  | foreignKey _ _ => true
  | _ => false

/-- The name under which a field itself stands in a line. -/
def ColumnLine.fieldName? : ColumnLine → Option String
  | declared column => some column.name
  | primaryKey name => some name
  | _ => none

/-- The column that a constraint is about. It is required exactly if rows go with the row that they
refer to. -/
def Constraint.key (constraint : Constraint) : ColumnLine :=
  .foreignKey constraint.column (decide (constraint.onDelete = .cascade))

/-- Every mark of a primary key stands right behind the column of that name. -/
def MarksFollow (columns : List ColumnLine) : Prop :=
  ∀ before name after, columns = before ++ .primaryKey name :: after →
    ∃ front column, before = front ++ [.declared column] ∧ column.name = name

/-- An index of the table on one of the columns, unique exactly if the column is. -/
def Index.IsOn (index : Index) (table : String) (columns : List ColumnLine) : Prop :=
  index.table = table ∧ ∃ column, .declared column ∈ columns ∧ column.name = index.column ∧
    (index.unique = true ↔ "UNIQUE" ∈ column.clauses)

/-- A join table whose owner is the given table. -/
def JoinTable.IsOwnedBy (join : JoinTable) (table : String) : Prop :=
  join.ownerTable = table ∧ join.ownerKey = foreignKey table

/-- The parts of a table agree, and nothing else bears the name of a column of the default model. -/
structure TableSpec.WellFormed (spec : TableSpec) (useDefaultModel : Bool) : Prop where
  keys : spec.columns.filter ColumnLine.isKey = spec.constraints.map Constraint.key
  primaryKeys : MarksFollow spec.columns
  indexes : ∀ index ∈ spec.indexes, index.IsOn spec.name spec.columns
  joinTables : ∀ join ∈ spec.joinTables, join.IsOwnedBy spec.name
  trigger : spec.trigger = if useDefaultModel then some ⟨spec.name⟩ else none
  model : ∃ own, spec.columns =
      (if useDefaultModel then [.model .identity, .model .createdAt, .model .updatedAt] else []) ++
        own ∧ ∀ column, .model column ∉ own
  replaced : useDefaultModel = true → ∀ name ∈ ["id", "created_at", "updated_at"],
    (∀ column, .declared column ∈ spec.columns → column.name ≠ name) ∧
      .primaryKey name ∉ spec.columns ∧ ∀ index ∈ spec.indexes, index.column ≠ name

/-! Marks of primary keys. -/

namespace MarksFollow

theorem of_notMem {columns : List ColumnLine} (none : ∀ name, .primaryKey name ∉ columns) :
    MarksFollow columns := by
  rintro before name after rfl
  exact absurd (List.mem_append_right before (List.mem_cons_self ..)) (none name)

theorem own (column : Column) : MarksFollow [.declared column, .primaryKey column.name] := by
  intro before name after same
  rcases List.cons_eq_append_iff.mp same with ⟨rfl, rest⟩ | ⟨others, rfl, rest⟩
  · simp at rest
  · rcases List.cons_eq_append_iff.mp rest with ⟨rfl, rest⟩ | ⟨more, rfl, rest⟩
    · exact ⟨[], column, rfl, ColumnLine.primaryKey.inj (List.cons.inj rest).1⟩
    · simp at rest

theorem append {front back : List ColumnLine} (inFront : MarksFollow front)
    (inBack : MarksFollow back) : MarksFollow (front ++ back) := by
  intro before name after same
  rcases List.append_eq_append_iff.mp same with ⟨middle, rfl, rest⟩ | ⟨middle, whole, rest⟩
  · obtain ⟨earlier, column, rfl, named⟩ := inBack middle name after rest
    exact ⟨front ++ earlier, column, (List.append_assoc ..).symm, named⟩
  · cases middle with
    | nil =>
      -- The mark would be the first line of the back.
      obtain ⟨earlier, column, impossible, -⟩ := inBack [] name after rest.symm
      simp at impossible
    | cons mark others =>
      obtain ⟨rfl, -⟩ := List.cons.inj rest
      exact inFront before name others whole

theorem flatMap {parts : List Contribution}
    (each : ∀ part ∈ parts, MarksFollow part.columns) :
    MarksFollow (parts.flatMap Contribution.columns) := by
  induction parts with
  | nil => exact of_notMem (fun _ => List.not_mem_nil)
  | cons part parts ih =>
    rw [List.forall_mem_cons] at each
    exact each.1.append (ih each.2)

end MarksFollow

/-! What one field adds. -/

/-- The part of a table that a field of the given name accounts for. -/
structure Contribution.WellFormed (part : Contribution) (table field : String) : Prop where
  keys : part.columns.filter ColumnLine.isKey = part.constraints.map Constraint.key
  primaryKeys : MarksFollow part.columns
  indexes : ∀ index ∈ part.indexes, index.IsOn table part.columns
  joinTables : ∀ join ∈ part.joinTables, join.IsOwnedBy table
  noModel : ∀ column, .model column ∉ part.columns
  named : ∀ line ∈ part.columns, ∀ name ∈ line.fieldName?, name = field

theorem wellFormed_scalar (table : String) (column : Column) (primary : Bool) (index : Option Bool)
    (known : ∀ unique ∈ index, unique = true ↔ "UNIQUE" ∈ column.clauses) :
    ((ClassifiedField.scalar column primary index).contribution table).WellFormed table
      column.name where
  keys := by cases primary <;> rfl
  primaryKeys := by
    cases primary with
    | false => exact MarksFollow.of_notMem (by simp [ClassifiedField.contribution])
    | true => exact MarksFollow.own column
  indexes := by
    intro entry member
    obtain ⟨unique, wanted, rfl⟩ := List.mem_map.mp member
    exact ⟨rfl, column, List.mem_cons_self .., rfl, known unique (Option.mem_toList.mp wanted)⟩
  joinTables := List.forall_mem_nil _
  noModel := by cases primary <;> simp [ClassifiedField.contribution]
  named := by cases primary <;> simp [ClassifiedField.contribution, ColumnLine.fieldName?]

theorem wellFormed_relation (table field : String) (key : ForeignKey) :
    ((ClassifiedField.belongsTo key).contribution table).WellFormed table field ∧
      ((ClassifiedField.associateTo key).contribution table).WellFormed table field := by
  constructor <;>
  exact
    { keys := rfl
      primaryKeys := MarksFollow.of_notMem (by simp [ClassifiedField.contribution])
      indexes := List.forall_mem_nil _
      joinTables := List.forall_mem_nil _
      noModel := by simp [ClassifiedField.contribution]
      named := by simp [ClassifiedField.contribution, ColumnLine.fieldName?] }

theorem wellFormed_contribution (definition : TypeDefinition) (field : FieldDefinition)
    (part : Contribution) (found : definition.contribution field = .ok part) :
    part.WellFormed (tableName definition.name) field.name := by
  obtain ⟨target, modifiers, -, asked, rfl⟩ := (contribution_eq_ok_iff ..).mp found
  have relation := wellFormed_relation (tableName definition.name) field.name
    (.toType target.name modifiers.foreignKey)
  unfold FieldDefinition.inRole
  cases Role.ofName field.name with
  | scalar =>
    refine wellFormed_scalar (tableName definition.name) _ _ _ ?_
    intro unique wanted
    obtain ⟨-, rfl⟩ : modifiers.indexed = true ∧ modifiers.unique = unique := by
      simpa using wanted
    exact unique_iff definition.name field modifiers asked
  | belongsTo => exact relation.1
  | associateTo => exact relation.2
  | hasAndBelongsToMany =>
    exact
      { keys := rfl
        primaryKeys := MarksFollow.of_notMem (fun _ => List.not_mem_nil)
        indexes := List.forall_mem_nil _
        joinTables := List.forall_mem_singleton.mpr ⟨rfl, rfl⟩
        noModel := fun _ => List.not_mem_nil
        named := List.forall_mem_nil _ }

/-! What all fields add together. -/

/-- No field adds a column of the default model. -/
theorem notMem_of_parts (definition : TypeDefinition) (useDefaultModel : Bool)
    (parts : List Contribution)
    (all : List.Forall₂ (fun field part => definition.contribution field = .ok part)
      (definition.ownFields useDefaultModel) parts) (column : ModelColumn) :
    .model column ∉ parts.flatMap Contribution.columns := by
  intro member
  obtain ⟨part, inParts, own⟩ := List.mem_flatMap.mp member
  obtain ⟨field, -, contributed⟩ :=
    definition.exists_ownField_of_part useDefaultModel parts all part inParts
  exact (wellFormed_contribution definition field part contributed).noModel column own

theorem keys_flatMap (parts : List Contribution)
    (each : ∀ part ∈ parts,
      part.columns.filter ColumnLine.isKey = part.constraints.map Constraint.key) :
    (parts.flatMap Contribution.columns).filter ColumnLine.isKey =
      (parts.flatMap Contribution.constraints).map Constraint.key := by
  rw [List.filter_flatMap, List.map_flatMap]
  exact List.flatMap_congr each

theorem Index.IsOn.mono {index : Index} {table : String} {columns more : List ColumnLine}
    (isOn : index.IsOn table columns) (inside : columns ⊆ more) : index.IsOn table more := by
  obtain ⟨same, column, member, named, unique⟩ := isOn
  exact ⟨same, column, inside member, named, unique⟩

section
variable (definition : TypeDefinition) (useDefaultModel : Bool) (parts : List Contribution)
  (each : ∀ part ∈ parts, ∃ field ∈ definition.ownFields useDefaultModel,
    part.WellFormed (tableName definition.name) field.name)
include each

/-- No line is named after a column of the model that a field gives way to. -/
theorem fieldName_of_tableOf (used : useDefaultModel = true) (line : ColumnLine)
    (member : line ∈ (definition.tableOf useDefaultModel parts).columns) (name : String)
    (named : name ∈ line.fieldName?) : name ∉ ["id", "created_at", "updated_at"] := by
  rcases List.mem_append.mp member with inModel | inParts
  · rw [if_pos used] at inModel
    obtain ⟨column, -, rfl⟩ := List.mem_map.mp inModel
    contradiction
  · obtain ⟨part, inParts, own⟩ := List.mem_flatMap.mp inParts
    obtain ⟨field, kept, wellFormed⟩ := each part inParts
    rw [wellFormed.named line own name named]
    exact isKept_of_mem_ownFields definition useDefaultModel field kept used

theorem wellFormed_tableOf :
    (definition.tableOf useDefaultModel parts).WellFormed useDefaultModel := by
  have indexes : ∀ index ∈ (definition.tableOf useDefaultModel parts).indexes,
      index.IsOn (tableName definition.name) (definition.tableOf useDefaultModel parts).columns := by
    intro index member
    obtain ⟨part, inParts, own⟩ := List.mem_flatMap.mp member
    obtain ⟨field, -, wellFormed⟩ := each part inParts
    exact (wellFormed.indexes index own).mono (fun line inPart =>
      List.mem_append_right _ (List.mem_flatMap.mpr ⟨part, inParts, inPart⟩))
  have names := fieldName_of_tableOf definition useDefaultModel parts each
  exact
    { keys := by
        have model : (if useDefaultModel then ModelColumn.all.map ColumnLine.model else []).filter
            ColumnLine.isKey = [] := by
          cases useDefaultModel <;> rfl
        rw [TypeDefinition.tableOf, List.filter_append, model, List.nil_append, keys_flatMap]
        intro part inParts
        obtain ⟨field, -, wellFormed⟩ := each part inParts
        exact wellFormed.keys
      primaryKeys := by
        refine MarksFollow.append (MarksFollow.of_notMem ?_) (MarksFollow.flatMap ?_)
        · cases useDefaultModel <;> simp
        · intro part inParts
          obtain ⟨field, -, wellFormed⟩ := each part inParts
          exact wellFormed.primaryKeys
      indexes
      joinTables := by
        intro join member
        obtain ⟨part, inParts, own⟩ := List.mem_flatMap.mp member
        obtain ⟨field, -, wellFormed⟩ := each part inParts
        exact wellFormed.joinTables join own
      trigger := rfl
      model := by
        refine ⟨parts.flatMap Contribution.columns, rfl, ?_⟩
        intro column member
        obtain ⟨part, inParts, own⟩ := List.mem_flatMap.mp member
        obtain ⟨field, -, wellFormed⟩ := each part inParts
        exact wellFormed.noModel column own
      replaced := by
        intro used name reserved
        refine ⟨?_, ?_, ?_⟩
        · rintro column member rfl
          exact names used _ member column.name rfl reserved
        · exact fun member => names used _ member name rfl reserved
        · rintro index member rfl
          obtain ⟨-, column, inColumns, named, -⟩ := indexes index member
          exact names used _ inColumns index.column (congrArg some named) reserved }

end

/-- Every table that a type is assembled to is well formed. -/
theorem wellFormed_of_table (definition : TypeDefinition) (useDefaultModel : Bool)
    (spec : TableSpec) (assembled : definition.table useDefaultModel = .ok spec) :
    spec.WellFormed useDefaultModel := by
  obtain ⟨parts, all, rfl⟩ := (table_eq_ok_iff definition useDefaultModel spec).mp assembled
  refine wellFormed_tableOf definition useDefaultModel parts ?_
  intro part member
  obtain ⟨field, own, contributed⟩ :=
    definition.exists_ownField_of_part useDefaultModel parts all part member
  exact ⟨field, own, wellFormed_contribution definition field part contributed⟩

/-! A loan of a book: its own `id` is dropped, and its key to the book has a name of its own. -/

def loan : TypeDefinition where
  kind := .object
  name := "Loan"
  fields :=
    [{ name := "id", type := .list (.named "Int") },
     { name := "code"
       type := .nonNull (.named "String")
       directives := [{ name := "index" }, { name := "primary" }, { name := "unique" }] },
     { name := "belongsToBook"
       type := .named "Book"
       directives := [{ name := "foreignKey", arguments := [⟨"value", .string "book"⟩] }] },
     { name := "associateToReader", type := .nonNull (.named "Reader") },
     { name := "hasAndBelongsToManyTags", type := .named "Tag" }]

theorem wellFormed_of_table_loan :
    ∃ spec, loan.table true = .ok spec ∧
      spec.columns.filter ColumnLine.isKey =
        [.foreignKey "book" true, .foreignKey "reader_id" false] ∧
      spec.indexes = [⟨"loans", "code", true⟩] ∧ spec.WellFormed true :=
  ⟨_, rfl, rfl, rfl, wellFormed_of_table loan true _ rfl⟩

end RecordSql
