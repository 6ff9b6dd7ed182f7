import RecordSql.Proofs.Schema.Catalog
import RecordSql.Proofs.Table.Concatenation
import RecordSql.Proofs.Table.Query

/-!
Fields that can be exchanged for each other. Of a relation a table sees nothing but the kind of the
relation, the type that it leads to and the column that its last directive for a key names, and of
any other field it does not see the directives for a key. So a schema is compiled alike with either
of two such fields.
-/

namespace RecordSql
open Name (tableName)

namespace FieldDefinition

/-- Two fields of a type that are relations of one name to one type, and whose directives have a
meaning. Fields that are stored as keys name the same column, if any. -/
structure SameRelation (type : String) (field other : FieldDefinition) : Prop where
  name : field.name = other.name
  relation : field.IsRelation
  target : ∃ stored otherStored, field.type.target? = some stored ∧
    other.type.target? = some otherStored ∧ stored.name = otherStored.name
  read : ∃ modifiers, Modifiers.ofField type field = .ok modifiers
  otherRead : ∃ modifiers, Modifiers.ofField type other = .ok modifiers
  key : ¬field.IsToMany → field.namedKey? = other.namedKey?

/-- Two fields that are no relations and differ in their directives for a key only, all of which
name a column. -/
structure SameScalar (field other : FieldDefinition) : Prop where
  name : field.name = other.name
  scalar : ¬field.IsRelation
  type : field.type = other.type
  named : ∀ directive ∈ field.directives ++ other.directives, directive.name = "foreignKey" →
    ∃ column, directive.value? = some (.string column)
  others : field.directives.filter (fun directive => directive.name ≠ "foreignKey") =
    other.directives.filter (fun directive => directive.name ≠ "foreignKey")

/-- What a relation comes to in its role. -/
theorem inRole_congr (field other : FieldDefinition) (table : String)
    (stored otherStored : TargetType) (modifiers otherModifiers : Modifiers)
    (names : field.name = other.name) (relation : field.IsRelation)
    (targets : stored.name = otherStored.name)
    (keys : ¬field.IsToMany → modifiers.foreignKey = otherModifiers.foreignKey) :
    field.inRole table stored modifiers = other.inRole table otherStored otherModifiers := by
  rw [isRelation_iff_role] at relation
  rw [isToMany_iff_role] at keys
  unfold inRole
  rw [← names, ← targets]
  cases role : Role.ofName field.name with
  | scalar => exact absurd role relation
  | belongsTo => rw [keys (by simp [role])]
  | associateTo => rw [keys (by simp [role])]
  | hasAndBelongsToMany => rfl

theorem SameRelation.classify {type : String} {field other : FieldDefinition}
    (same : SameRelation type field other) (table : String) :
    ∃ classified, field.classify type table = .ok classified ∧
      other.classify type table = .ok classified := by
  obtain ⟨stored, otherStored, found, otherFound, targets⟩ := same.target
  obtain ⟨modifiers, read⟩ := same.read
  obtain ⟨otherModifiers, otherRead⟩ := same.otherRead
  have keys : ¬field.IsToMany → modifiers.foreignKey = otherModifiers.foreignKey := by
    intro one
    rw [foreignKey_eq_namedKey type field modifiers read,
      foreignKey_eq_namedKey type other otherModifiers otherRead]
    exact same.key one
  refine ⟨field.inRole table stored modifiers, ?_, ?_⟩
  · exact (classify_eq_ok_iff ..).mpr ⟨stored, modifiers, found, read, rfl⟩
  · exact (classify_eq_ok_iff ..).mpr ⟨otherStored, otherModifiers, otherFound, otherRead,
      (inRole_congr field other table stored otherStored modifiers otherModifiers same.name
        same.relation targets keys).symm⟩

end FieldDefinition

/-! Directives for a key on a field that is none. -/

def Modifiers.withoutKey (modifiers : Modifiers) : Modifiers :=
  { modifiers with foreignKey := none }

theorem withoutKey_addMeaning (modifiers : Modifiers) (meaning : Option Modifier) :
    (modifiers.addMeaning meaning).withoutKey =
      (modifiers.withoutKey.addMeaning meaning).withoutKey := by
  cases meaning with
  | none => rfl
  | some modifier => cases modifier <;> rfl

theorem ofField_withoutKey (type : String) (field : FieldDefinition)
    (named : ∀ directive ∈ field.directives, directive.name = "foreignKey" →
      ∃ column, directive.value? = some (.string column)) :
    (Modifiers.ofField type field).map Modifiers.withoutKey =
      (Modifiers.ofField type
        { field with
          directives := field.directives.filter
            (fun directive => directive.name ≠ "foreignKey") }).map Modifiers.withoutKey := by
  apply map_ofField_filter
  · intro left right same meaning
    rw [withoutKey_addMeaning, same, ← withoutKey_addMeaning]
  · intro directive member key
    have key : directive.name = "foreignKey" := by simpa using key
    obtain ⟨column, given⟩ := named directive member key
    refine ⟨some (.foreignKey column), ?_, fun before => rfl⟩
    simp [Modifier.ofDirective, key, given, Literal.text?]

namespace FieldDefinition

/-- A field that is no relation does not look at the key. -/
theorem inRole_withoutKey (field : FieldDefinition) (table : String) (stored : TargetType)
    (modifiers : Modifiers) (scalar : ¬field.IsRelation) :
    field.inRole table stored modifiers = field.inRole table stored modifiers.withoutKey := by
  rw [isRelation_iff_role, not_not] at scalar
  unfold inRole
  rw [scalar]
  rfl

theorem classify_eq_map (field : FieldDefinition) (type table : String)
    (scalar : ¬field.IsRelation) :
    field.classify type table = (field.target type >>= fun stored =>
      ((Modifiers.ofField type field).map Modifiers.withoutKey).map (field.inRole table stored)) := by
  unfold classify
  cases field.target type with
  | error error => rfl
  | ok stored =>
    cases Modifiers.ofField type field with
    | error error => rfl
    | ok modifiers => exact congrArg Except.ok (inRole_withoutKey field table stored modifiers scalar)

theorem SameScalar.classify {field other : FieldDefinition} (same : SameScalar field other)
    (type table : String) : field.classify type table = other.classify type table := by
  have otherScalar : ¬other.IsRelation := by
    have scalar := same.scalar
    rwa [IsRelation, same.name] at scalar
  have targets : field.target type = other.target type := by
    rw [target, target, same.type, same.name]
  have roles : field.inRole table = other.inRole table := by
    funext stored modifiers
    rw [inRole, inRole, same.name]
  have modifiers : (Modifiers.ofField type field).map Modifiers.withoutKey =
      (Modifiers.ofField type other).map Modifiers.withoutKey := by
    rw [ofField_withoutKey type field (fun directive member =>
        same.named directive (List.mem_append_left _ member)),
      ofField_withoutKey type other (fun directive member =>
        same.named directive (List.mem_append_right _ member)),
      same.others, Modifiers.ofField, Modifiers.ofField, same.name]
  rw [classify_eq_map field type table same.scalar, classify_eq_map other type table otherScalar,
    targets, roles, modifiers]

end FieldDefinition

/-! Fields of one name that are classified alike in any type and schema around them. -/

theorem table_exchange (definition : TypeDefinition) (useDefaultModel : Bool)
    (front back : List FieldDefinition) (field other : FieldDefinition)
    (names : field.name = other.name)
    (alike : ∀ table, field.classify definition.name table = other.classify definition.name table) :
    (definition.withFields (front ++ field :: back)).table useDefaultModel =
      (definition.withFields (front ++ other :: back)).table useDefaultModel := by
  have contributed : definition.contribution field = definition.contribution other := by
    rw [TypeDefinition.contribution, TypeDefinition.contribution, alike]
  have alone : (definition.withFields [field]).table useDefaultModel =
      (definition.withFields [other]).table useDefaultModel := by
    have replaced : field.isReplaced = other.isReplaced := by
      rw [FieldDefinition.isReplaced, FieldDefinition.isReplaced, names]
    have contributions (fields : List FieldDefinition) :
        (definition.withFields fields).contribution = definition.contribution := rfl
    rw [table_eq_map, table_eq_map, TypeDefinition.ownFields_eq_filter,
      TypeDefinition.ownFields_eq_filter, contributions, contributions]
    simp only [TypeDefinition.withFields, List.filter_cons, List.filter_nil, replaced]
    split
    · rw [List.mapM_cons, List.mapM_cons, contributed]
      rfl
    · rfl
  have one (field : FieldDefinition) : front ++ field :: back = front ++ ([field] ++ back) := rfl
  rw [one, one, table_append, table_append, table_append, table_append, alone]

/-- The statements of a schema depend on its definitions by their tables only. -/
theorem ddl_eq_bind (schema : Schema) (options : CompileOptions) :
    schema.ddl options =
      (schema.catalog.map (Keyed.map (fun definition => definition.table options.useDefaultModel)) >>=
        fun tables => tables.values.mapM id >>= fun specs : List TableSpec =>
          .ok ("\n".intercalate (specs.map TableSpec.sql))) := by
  unfold Schema.ddl
  cases schema.catalog with
  | error error => rfl
  | ok catalog =>
    change catalog.ddl options = (Keyed.values (catalog.map _)).mapM id >>= _
    rw [Catalog.ddl, Catalog.tables, Keyed.values_map, List.mapM_map]
    rfl

theorem ddl_eq_of_tables (options : CompileOptions) (schema other : Schema)
    (all : List.Forall₂ (fun definition other : TypeDefinition =>
      definition.name = other.name ∧ definition.kind = other.kind ∧
        definition.table options.useDefaultModel = other.table options.useDefaultModel)
      schema.definitions other.definitions) : schema.ddl options = other.ddl options := by
  have catalogs := Catalog.foldlM_view
    (fun definition => definition.table options.useDefaultModel) _ _ all Keyed.empty Keyed.empty rfl
  change schema.catalog.map _ = other.catalog.map _ at catalogs
  rw [ddl_eq_bind, ddl_eq_bind, catalogs]

theorem ddl_exchange (before after : List TypeDefinition) (definition : TypeDefinition)
    (front back : List FieldDefinition) (field other : FieldDefinition)
    (names : field.name = other.name)
    (alike : ∀ table, field.classify definition.name table = other.classify definition.name table)
    (options : CompileOptions) :
    Schema.ddl ⟨before ++ definition.withFields (front ++ field :: back) :: after⟩ options =
      Schema.ddl ⟨before ++ definition.withFields (front ++ other :: back) :: after⟩ options := by
  have same : ∀ definitions : List TypeDefinition,
      List.Forall₂ (fun definition other : TypeDefinition =>
        definition.name = other.name ∧ definition.kind = other.kind ∧
          definition.table options.useDefaultModel = other.table options.useDefaultModel)
        definitions definitions :=
    fun definitions => List.forall₂_same.mpr (fun _ _ => ⟨rfl, rfl, rfl⟩)
  apply ddl_eq_of_tables
  exact List.rel_append (same before) (.cons ⟨rfl, rfl,
    table_exchange definition options.useDefaultModel front back field other names alike⟩ (same after))

/-- Two fields for one relation are classified alike, whatever else their types and directives say,
and two scalar fields are classified alike whatever column their directives for a key name. So
wherever one of two such fields stands in a schema, the other can take its place, and the schema is
compiled to the same text or fails with the same error. -/
theorem classify_exchangeable :
    (∀ (type table : String) (field other : FieldDefinition), field.SameRelation type other →
      ∃ classified, field.classify type table = .ok classified ∧
        other.classify type table = .ok classified) ∧
    (∀ (type table : String) (field other : FieldDefinition), field.SameScalar other →
      field.classify type table = other.classify type table) ∧
    ∀ (before after : List TypeDefinition) (definition : TypeDefinition)
      (front back : List FieldDefinition) (field other : FieldDefinition),
      field.SameRelation definition.name other ∨ field.SameScalar other →
        ∀ options,
          Schema.ddl ⟨before ++ definition.withFields (front ++ field :: back) :: after⟩ options =
            Schema.ddl ⟨before ++ definition.withFields (front ++ other :: back) :: after⟩
              options := by
  refine ⟨fun type table field other same => same.classify table,
    fun type table field other same => same.classify type table, ?_⟩
  intro before after definition front back field other same options
  rcases same with same | same
  · apply ddl_exchange _ _ _ _ _ _ _ same.name
    intro table
    obtain ⟨classified, found, otherFound⟩ := same.classify table
    rw [found, otherFound]
  · exact ddl_exchange _ _ _ _ _ _ _ same.name (same.classify definition.name) options

/-! The author of an article, with little and with much said about the column, and a title that names
a column for a key. -/

def keyed (column : String) : Directive :=
  { name := "foreignKey", arguments := [⟨"value", .string column⟩] }

def plainAuthor : FieldDefinition :=
  { name := "belongsToAuthor", type := .named "User", directives := [keyed "author_id"] }

def loadedAuthor : FieldDefinition where
  name := "belongsToAuthor"
  type := .nonNull (.named "User")
  directives :=
    [keyed "user_id", { name := "unique" }, { name := "index" }, { name := "primary" },
     { name := "default", arguments := [⟨"value", .int 7⟩] }, keyed "author_id"]

def heading (keys : List Directive) : FieldDefinition :=
  { name := "title", type := .named "String", directives := keys ++ [{ name := "index" }] }

theorem classify_exchangeable_author :
    let article : TypeDefinition := { kind := .object, name := "Article" }
    plainAuthor.SameRelation "Article" loadedAuthor ∧
      (heading []).SameScalar (heading [keyed "author_id"]) ∧
      (∃ classified, plainAuthor.classify "Article" "articles" = .ok classified ∧
        loadedAuthor.classify "Article" "articles" = .ok classified) ∧
      (heading []).classify "Article" "articles" =
        (heading [keyed "author_id"]).classify "Article" "articles" ∧
      Schema.ddl ⟨[article.withFields [heading [], plainAuthor]]⟩ ⟨true⟩ =
        Schema.ddl ⟨[article.withFields [heading [], loadedAuthor]]⟩ ⟨true⟩ := by
  intro article
  have relation : plainAuthor.SameRelation "Article" loadedAuthor :=
    { name := rfl
      relation := by decide
      target := ⟨⟨"User", false⟩, ⟨"User", true⟩, rfl, rfl, rfl⟩
      read := ⟨_, rfl⟩
      otherRead := ⟨_, rfl⟩
      key := fun _ => by decide }
  have scalar : (heading []).SameScalar (heading [keyed "author_id"]) :=
    { name := rfl
      scalar := by decide
      type := rfl
      named := by
        intro directive member named
        have inHeading : directive ∈
            [{ name := "index" }, keyed "author_id", { name := "index" }] := member
        simp only [List.mem_cons, List.not_mem_nil, or_false] at inHeading
        rcases inHeading with rfl | rfl | rfl
        · exact absurd named (by decide)
        · exact ⟨"author_id", rfl⟩
        · exact absurd named (by decide)
      others := by decide }
  exact ⟨relation, scalar,
    classify_exchangeable.1 "Article" "articles" plainAuthor loadedAuthor relation,
    classify_exchangeable.2.1 "Article" "articles" _ _ scalar,
    classify_exchangeable.2.2 [] [] article [heading []] [] plainAuthor loadedAuthor (Or.inl relation)
      ⟨true⟩⟩

end RecordSql
