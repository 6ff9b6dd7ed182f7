import RecordSql.Proofs.Compile
import RecordSql.Proofs.Schema.RecordTypes

/-!
References between tables. A key names the table of a type by the name that the type itself gives to
its table, so no reference dangles if every relation is to a record type of the schema.
-/

namespace RecordSql
open Name (tableName)

/-- The constraints of a table and of its join tables. -/
def TableSpec.allConstraints (spec : TableSpec) : List Constraint :=
  spec.constraints ++ spec.joinTables.flatMap JoinTable.constraints

/-- Every relation of a record type is to a record type. -/
def Schema.IsClosed (schema : Schema) : Prop :=
  ∀ definition ∈ schema.recordTypes, ∀ field ∈ definition.fields, field.IsRelation →
    ∀ target ∈ field.type.target?, target.name ∈ schema.recordNames

instance : DecidablePred Schema.IsClosed := fun schema =>
  inferInstanceAs (Decidable (∀ definition ∈ schema.recordTypes, ∀ field ∈ definition.fields,
    field.IsRelation → ∀ target ∈ field.type.target?, target.name ∈ schema.recordNames))

/-- A part of a table refers to the table itself or to that of the type that its field names. -/
theorem reference_of_contribution (definition : TypeDefinition) (field : FieldDefinition)
    (part : Contribution) (found : definition.contribution field = .ok part)
    (constraint : Constraint)
    (member : constraint ∈ part.constraints ++ part.joinTables.flatMap JoinTable.constraints) :
    constraint.references = tableName definition.name ∨
      field.IsRelation ∧ ∃ target ∈ field.type.target?,
        constraint.references = tableName target.name := by
  obtain ⟨target, modifiers, stored, -, rfl⟩ := (contribution_eq_ok_iff ..).mp found
  have relation : Role.ofName field.name ≠ .scalar → constraint.references = tableName target.name →
      field.IsRelation ∧ ∃ target ∈ field.type.target?,
        constraint.references = tableName target.name :=
    fun role named => ⟨(isRelation_iff_role field).mpr role, target, stored, named⟩
  unfold FieldDefinition.inRole at member
  cases role : Role.ofName field.name with
  | scalar =>
    rw [role] at member
    contradiction
  | belongsTo =>
    rw [role] at member
    obtain rfl := List.mem_singleton.mp member
    exact Or.inr (relation (by simp [role]) rfl)
  | associateTo =>
    rw [role] at member
    obtain rfl := List.mem_singleton.mp member
    exact Or.inr (relation (by simp [role]) rfl)
  | hasAndBelongsToMany =>
    rw [role] at member
    rcases List.mem_pair.mp member with rfl | rfl
    · exact Or.inl rfl
    · exact Or.inr (relation (by simp [role]) rfl)

theorem reference_of_table (definition : TypeDefinition) (useDefaultModel : Bool) (spec : TableSpec)
    (assembled : definition.table useDefaultModel = .ok spec) (constraint : Constraint)
    (member : constraint ∈ spec.allConstraints) :
    constraint.references = tableName definition.name ∨
      ∃ field ∈ definition.fields, field.IsRelation ∧ ∃ target ∈ field.type.target?,
        constraint.references = tableName target.name := by
  obtain ⟨parts, all, rfl⟩ := (table_eq_ok_iff definition useDefaultModel spec).mp assembled
  have inPart : ∃ part ∈ parts,
      constraint ∈ part.constraints ++ part.joinTables.flatMap JoinTable.constraints := by
    simp only [TableSpec.allConstraints, TypeDefinition.tableOf, List.mem_append,
      List.mem_flatMap] at member ⊢
    rcases member with ⟨part, inParts, own⟩ | ⟨join, ⟨part, inParts, inJoins⟩, own⟩
    · exact ⟨part, inParts, Or.inl own⟩
    · exact ⟨part, inParts, Or.inr ⟨join, inJoins, own⟩⟩
  obtain ⟨part, inParts, own⟩ := inPart
  obtain ⟨field, declared, contributed⟩ :=
    definition.exists_field_of_part useDefaultModel parts all part inParts
  exact (reference_of_contribution definition field part contributed constraint own).imp_right
    (fun relation => ⟨field, declared, relation⟩)

theorem identity_of_table (definition : TypeDefinition) (spec : TableSpec)
    (assembled : definition.table true = .ok spec) : ModelColumn.identity.sql ∈ spec.lines := by
  obtain ⟨parts, -, rfl⟩ := (table_eq_ok_iff definition true spec).mp assembled
  exact List.mem_append_left _ (List.mem_cons_self ..)

/-- If every relation of a schema is to one of its record types, every table that a key refers to is
created by the same statements under the name that the key has for it, and has the column that the
key refers to if the default model is used. -/
theorem references_created (schema : Schema) (options : CompileOptions) (text : String)
    (compiled : schema.ddl options = .ok text) (closed : schema.IsClosed) :
    ∃ specs, schema.tables options = .ok specs ∧
      text = "\n".intercalate (specs.map TableSpec.sql) ∧
      ∀ spec ∈ specs, ∀ constraint ∈ spec.allConstraints, ∃ created ∈ specs,
        created.name = constraint.references ∧
          createTable constraint.references created.lines ∈ created.statements ∧
          (options.useDefaultModel = true → ModelColumn.identity.sql ∈ created.lines) := by
  obtain ⟨specs, specified, rfl⟩ := (ddl_eq_ok_iff schema options text).mp compiled
  refine ⟨specs, specified, rfl, ?_⟩
  rw [Schema.tables, bind_eq_ok] at specified
  obtain ⟨catalog, extracted, all⟩ := specified
  rw [Catalog.tables, schema.values_of_catalog catalog extracted] at all
  -- The table of a record type is among the created ones, whatever refers to it.
  have created (definition : TypeDefinition) (record : definition ∈ schema.recordTypes) :
      ∃ spec ∈ specs, spec.name = tableName definition.name ∧
        createTable (tableName definition.name) spec.lines ∈ spec.statements ∧
        (options.useDefaultModel = true → ModelColumn.identity.sql ∈ spec.lines) := by
    obtain ⟨spec, member, assembled⟩ := exists_mem_of_mapM _ _ _ all definition record
    refine ⟨spec, member, table_name assembled, ?_, ?_⟩
    · rw [← table_name assembled]
      exact List.mem_cons_self ..
    · intro useDefaultModel
      rw [useDefaultModel] at assembled
      exact identity_of_table definition spec assembled
  intro spec member constraint own
  obtain ⟨definition, record, assembled⟩ := exists_of_mem_mapM _ _ _ all spec member
  rcases reference_of_table definition _ spec assembled constraint own with
    same | ⟨field, declared, relation, target, stored, same⟩
  · rw [same]
    exact created definition record
  · have named := closed definition record field declared relation target stored
    obtain ⟨referred, isRecord, name⟩ := schema.exists_of_mem_recordNames target.name named
    rw [same, ← name]
    exact created referred isRecord

/-! Posts that belong to a user and have tags. -/

def posts : Schema where
  definitions :=
    [{ kind := .object
       name := "Post"
       fields :=
         [{ name := "belongsToUser", type := .nonNull (.named "User") },
          { name := "hasAndBelongsToManyTags", type := .named "Tag" }] },
     { kind := .object, name := "User" },
     { kind := .object, name := "Tag" }]

theorem references_created_posts :
    ∃ specs, posts.tables ⟨true⟩ = .ok specs ∧
      specs.flatMap (fun spec => spec.allConstraints.map Constraint.references) =
        ["users", "posts", "tags"] ∧
      ∀ spec ∈ specs, ∀ constraint ∈ spec.allConstraints, ∃ created ∈ specs,
        created.name = constraint.references ∧
          createTable constraint.references created.lines ∈ created.statements ∧
          ModelColumn.identity.sql ∈ created.lines := by
  have compiles : (posts.ddl ⟨true⟩).toOption.isSome = true := by decide +kernel
  have closed : posts.IsClosed := by decide
  have referred : (posts.tables ⟨true⟩).toOption.map (fun specs =>
      specs.flatMap (fun spec => spec.allConstraints.map Constraint.references)) =
        some ["users", "posts", "tags"] := by decide +kernel
  cases compiled : posts.ddl ⟨true⟩ with
  | error error =>
    rw [compiled] at compiles
    contradiction
  | ok text =>
    obtain ⟨specs, specified, -, created⟩ := references_created posts ⟨true⟩ text compiled closed
    rw [specified] at referred
    refine ⟨specs, specified, Option.some.inj referred, ?_⟩
    intro spec member constraint own
    obtain ⟨table, inSpecs, name, statement, identity⟩ := created spec member constraint own
    exact ⟨table, inSpecs, name, statement, identity rfl⟩

end RecordSql
