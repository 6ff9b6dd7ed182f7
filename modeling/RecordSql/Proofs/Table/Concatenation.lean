import RecordSql.Compile
import RecordSql.Proofs.Table.WellFormed

/-!
The table of a type with more fields. What the fields in front add to a table stands in front of
what the others add, in every part of the table, and nothing else depends on the fields. A relation
to many rows adds a join table only, so its place among other fields makes no difference.
-/

namespace RecordSql
open Name (tableName)

/-- The type with other fields. -/
def TypeDefinition.withFields (definition : TypeDefinition) (fields : List FieldDefinition) :
    TypeDefinition :=
  { definition with fields }

def ColumnLine.isModel : ColumnLine → Bool
  | model _ => true
  | _ => false

namespace TableSpec

/-- The columns of a table that do not come from the default model. -/
def ownColumns (spec : TableSpec) : List ColumnLine :=
  spec.columns.filter (fun line => !line.isModel)

/-- The table with all that another one has of its own behind what it has. -/
def append (first second : TableSpec) : TableSpec :=
  { first with
    columns := first.columns ++ second.ownColumns
    constraints := first.constraints ++ second.constraints
    joinTables := first.joinTables ++ second.joinTables
    indexes := first.indexes ++ second.indexes }

/-- A table with nothing of its own but join tables. -/
structure OnlyJoins (spec : TableSpec) : Prop where
  columns : spec.ownColumns = []
  constraints : spec.constraints = []
  indexes : spec.indexes = []

/-- Join tables go past whatever has none. -/
theorem append_right_comm (first joins others : TableSpec) (only : joins.OnlyJoins)
    (none : others.joinTables = []) :
    (first.append joins).append others = (first.append others).append joins := by
  simp only [append, only.columns, only.constraints, only.indexes, none, List.append_nil]

end TableSpec

/-! Two lists of fields. -/

theorem ownFields_append (definition : TypeDefinition) (useDefaultModel : Bool)
    (front back : List FieldDefinition) :
    (definition.withFields (front ++ back)).ownFields useDefaultModel =
      (definition.withFields front).ownFields useDefaultModel ++
        (definition.withFields back).ownFields useDefaultModel := by
  simp only [TypeDefinition.ownFields_eq_filter]
  exact List.filter_append ..

section
variable (definition : TypeDefinition) (useDefaultModel : Bool)

theorem ownColumns_tableOf (parts : List Contribution)
    (noModel : ∀ column, .model column ∉ parts.flatMap Contribution.columns) :
    (definition.tableOf useDefaultModel parts).ownColumns =
      parts.flatMap Contribution.columns := by
  have model : (if useDefaultModel then ModelColumn.all.map ColumnLine.model else []).filter
      (fun line => !line.isModel) = [] := by
    cases useDefaultModel <;> rfl
  have own : ∀ line ∈ parts.flatMap Contribution.columns, (!line.isModel) = true := by
    -- Only the lines of the model are left out, and no field adds one.
    intro line member
    cases line with
    | model column => exact absurd member (noModel column)
    | declared column => rfl
    | primaryKey name => rfl
    | foreignKey name nonNull => rfl
  rw [TableSpec.ownColumns, TypeDefinition.tableOf, List.filter_append, model, List.nil_append,
    List.filter_eq_self.mpr own]

theorem tableOf_append (front back : List Contribution)
    (noModel : ∀ column, .model column ∉ back.flatMap Contribution.columns) :
    definition.tableOf useDefaultModel (front ++ back) =
      (definition.tableOf useDefaultModel front).append
        (definition.tableOf useDefaultModel back) := by
  rw [TableSpec.append, ownColumns_tableOf definition useDefaultModel back noModel]
  simp only [TypeDefinition.tableOf, List.flatMap_append, List.append_assoc]

/-- The fields in front are looked at first, and the others only if none of those fails. -/
theorem table_append (front back : List FieldDefinition) :
    (definition.withFields (front ++ back)).table useDefaultModel = (do
      let first ← (definition.withFields front).table useDefaultModel
      let second ← (definition.withFields back).table useDefaultModel
      .ok (first.append second)) := by
  have contributions (fields : List FieldDefinition) :
      (definition.withFields fields).contribution = definition.contribution := rfl
  simp only [table_eq_map, ownFields_append, contributions, List.mapM_append]
  cases ((definition.withFields front).ownFields useDefaultModel).mapM definition.contribution with
  | error error => rfl
  | ok first =>
    cases found : ((definition.withFields back).ownFields useDefaultModel).mapM
        definition.contribution with
    | error error => rfl
    | ok second =>
      exact congrArg Except.ok (tableOf_append definition useDefaultModel first second
        (notMem_of_parts (definition.withFields back) useDefaultModel second
          ((mapM_eq_ok_iff _ _ _).mp found)))

theorem table_append_eq_ok_iff (front back : List FieldDefinition) (spec : TableSpec) :
    (definition.withFields (front ++ back)).table useDefaultModel = .ok spec ↔
      ∃ first second, (definition.withFields front).table useDefaultModel = .ok first ∧
        (definition.withFields back).table useDefaultModel = .ok second ∧
          first.append second = spec := by
  simp only [table_append, bind_eq_ok, Except.ok.injEq, exists_and_left]

theorem table_append_eq_error_iff (front back : List FieldDefinition) (error : Error) :
    (definition.withFields (front ++ back)).table useDefaultModel = .error error ↔
      (definition.withFields front).table useDefaultModel = .error error ∨
        (∃ first, (definition.withFields front).table useDefaultModel = .ok first) ∧
          (definition.withFields back).table useDefaultModel = .error error := by
  simp only [table_append, bind_eq_error_iff, reduceCtorEq, and_false, exists_false, or_false,
    exists_and_right]

end

/-! Relations to many rows among other fields. -/

theorem onlyJoins_of_table (definition : TypeDefinition) (useDefaultModel : Bool) (spec : TableSpec)
    (assembled : definition.table useDefaultModel = .ok spec)
    (many : ∀ field ∈ definition.fields, field.IsToMany) : spec.OnlyJoins := by
  obtain ⟨parts, all, rfl⟩ := (table_eq_ok_iff definition useDefaultModel spec).mp assembled
  have joins (part : Contribution) (member : part ∈ parts) :
      part.columns = [] ∧ part.constraints = [] ∧ part.indexes = [] := by
    obtain ⟨field, declared, contributed⟩ :=
      definition.exists_field_of_part useDefaultModel parts all part member
    obtain ⟨target, -, rfl⟩ :=
      contribution_of_isToMany definition field part (many field declared) contributed
    exact ⟨rfl, rfl, rfl⟩
  exact
    { columns := by
        rw [ownColumns_tableOf definition useDefaultModel parts
          (notMem_of_parts definition useDefaultModel parts all)]
        exact List.flatMap_eq_nil_iff.mpr (fun part member => (joins part member).1)
      constraints := List.flatMap_eq_nil_iff.mpr (fun part member => (joins part member).2.1)
      indexes := List.flatMap_eq_nil_iff.mpr (fun part member => (joins part member).2.2) }

theorem joinTables_eq_nil (definition : TypeDefinition) (useDefaultModel : Bool) (spec : TableSpec)
    (assembled : definition.table useDefaultModel = .ok spec)
    (others : ∀ field ∈ definition.fields, ¬field.IsToMany) : spec.joinTables = [] := by
  obtain ⟨parts, all, rfl⟩ := (table_eq_ok_iff definition useDefaultModel spec).mp assembled
  refine List.flatMap_eq_nil_iff.mpr (fun part member => ?_)
  obtain ⟨field, declared, contributed⟩ :=
    definition.exists_field_of_part useDefaultModel parts all part member
  exact joinTables_of_contribution definition field part (others field declared) contributed

/-- Two runs of fields may change places if their tables may. -/
theorem table_swap (definition : TypeDefinition) (useDefaultModel : Bool)
    (before left right after : List FieldDefinition)
    (comm : ∀ first second third : TableSpec,
      (definition.withFields left).table useDefaultModel = .ok second →
        (definition.withFields right).table useDefaultModel = .ok third →
          (first.append second).append third = (first.append third).append second)
    (spec : TableSpec)
    (found : (definition.withFields (before ++ left ++ right ++ after)).table useDefaultModel =
      .ok spec) :
    (definition.withFields (before ++ right ++ left ++ after)).table useDefaultModel = .ok spec := by
  -- Either table is put together from the same four.
  simp only [table_append_eq_ok_iff] at found ⊢
  obtain ⟨_, last, ⟨_, third, ⟨first, second, inFront, ofLeft, rfl⟩, ofRight, rfl⟩, behind, rfl⟩ :=
    found
  refine ⟨_, last, ⟨_, second, ⟨first, third, inFront, ofRight, rfl⟩, ofLeft, rfl⟩, behind, ?_⟩
  rw [comm first second third ofLeft ofRight]

theorem table_move_iff (definition : TypeDefinition) (useDefaultModel : Bool)
    (before joins others after : List FieldDefinition) (many : ∀ field ∈ joins, field.IsToMany)
    (other : ∀ field ∈ others, ¬field.IsToMany) (spec : TableSpec) :
    (definition.withFields (before ++ joins ++ others ++ after)).table useDefaultModel = .ok spec ↔
      (definition.withFields (before ++ others ++ joins ++ after)).table useDefaultModel =
        .ok spec := by
  have comm (first second third : TableSpec)
      (ofJoins : (definition.withFields joins).table useDefaultModel = .ok second)
      (ofOthers : (definition.withFields others).table useDefaultModel = .ok third) :
      (first.append second).append third = (first.append third).append second :=
    TableSpec.append_right_comm first second third
      (onlyJoins_of_table (definition.withFields joins) useDefaultModel second ofJoins many)
      (joinTables_eq_nil (definition.withFields others) useDefaultModel third ofOthers other)
  constructor
  · exact table_swap definition useDefaultModel before joins others after comm spec
  · exact table_swap definition useDefaultModel before others joins after
      (fun first third second ofOthers ofJoins => (comm first second third ofJoins ofOthers).symm)
      spec

/-- The table of the fields in front, with what the others add behind what they add, is the table of
all fields, and there is one exactly if there is one for either list. Its name, its trigger and the
columns of the default model do not depend on fields. Relations to many rows can stand anywhere
among other fields for the same statements. -/
theorem table_concatenation (definition : TypeDefinition) (useDefaultModel : Bool) :
    (∀ front back spec,
      (definition.withFields (front ++ back)).table useDefaultModel = .ok spec ↔
        ∃ first second, (definition.withFields front).table useDefaultModel = .ok first ∧
          (definition.withFields back).table useDefaultModel = .ok second ∧
            first.append second = spec) ∧
    (∀ front back error,
      (definition.withFields (front ++ back)).table useDefaultModel = .error error ↔
        (definition.withFields front).table useDefaultModel = .error error ∨
          (∃ first, (definition.withFields front).table useDefaultModel = .ok first) ∧
            (definition.withFields back).table useDefaultModel = .error error) ∧
    (∀ fields spec, (definition.withFields fields).table useDefaultModel = .ok spec →
      spec.name = tableName definition.name ∧
      spec.trigger = (if useDefaultModel then some ⟨tableName definition.name⟩ else none) ∧
      spec.columns = (if useDefaultModel then
        [.model .identity, .model .createdAt, .model .updatedAt] else []) ++ spec.ownColumns) ∧
    ∀ before field others after text, field.IsToMany → (∀ other ∈ others, ¬other.IsToMany) →
      ((definition.withFields (before ++ [field] ++ others ++ after)).ddl ⟨useDefaultModel⟩ =
          .ok text ↔
        (definition.withFields (before ++ others ++ [field] ++ after)).ddl ⟨useDefaultModel⟩ =
          .ok text) := by
  refine ⟨table_append_eq_ok_iff definition useDefaultModel,
    table_append_eq_error_iff definition useDefaultModel, ?_, ?_⟩
  · intro fields spec assembled
    obtain ⟨parts, all, rfl⟩ :=
      (table_eq_ok_iff (definition.withFields fields) useDefaultModel spec).mp assembled
    refine ⟨rfl, rfl, ?_⟩
    rw [ownColumns_tableOf (definition.withFields fields) useDefaultModel parts
      (notMem_of_parts (definition.withFields fields) useDefaultModel parts all)]
    rfl
  · intro before field others after text many other
    simp only [TypeDefinition.ddl, bind_eq_ok, table_move_iff definition useDefaultModel before
      [field] others after (List.forall_mem_singleton.mpr many) other]

/-! A book has tags, wherever they are declared among its other fields. -/

def book : TypeDefinition := { kind := .object, name := "Book" }

def bookTitle : FieldDefinition :=
  { name := "title", type := .named "String", directives := [{ name := "index" }] }

def bookTags : FieldDefinition := { name := "hasAndBelongsToManyTags", type := .named "Tag" }

def bookAuthor : FieldDefinition := { name := "belongsToAuthor", type := .named "Author" }

theorem table_concatenation_book :
    ∃ spec text, (book.withFields [bookTags, bookTitle, bookAuthor]).table true = .ok spec ∧
      spec.columns = [.model .identity, .model .createdAt, .model .updatedAt] ++ spec.ownColumns ∧
      (book.withFields [bookTags, bookTitle, bookAuthor]).ddl ⟨true⟩ = .ok text ∧
      (book.withFields [bookTitle, bookAuthor, bookTags]).ddl ⟨true⟩ = .ok text := by
  obtain ⟨-, -, parts, moved⟩ := table_concatenation book true
  exact ⟨_, _, rfl, (parts [bookTags, bookTitle, bookAuthor] _ rfl).2.2, rfl,
    (moved [] bookTags [bookTitle, bookAuthor] [] _ (by decide) (by decide)).mp rfl⟩

end RecordSql
