import RecordSql.Proofs.Name.ForeignKey
import RecordSql.Proofs.Table.Modifier
import RecordSql.Table.Specification

/-!
Keys of relations. A field that names no column of its own refers to a table by the singular of the
table's name, and so does a join table. The column bears the name of the type exactly if the type's
last word comes back from its plural.
-/

namespace RecordSql
open Name (foreignKey isMisread lastWord pluralize singularize snakeCase tableName)

/-- A field whose name makes it a relation. -/
def FieldDefinition.IsRelation (field : FieldDefinition) : Prop :=
  ∃ start ∈ ["belongsTo", "associateTo", "hasAndBelongsToMany"],
    start.toList <+: field.name.toList

instance : DecidablePred FieldDefinition.IsRelation := fun field =>
  inferInstanceAs (Decidable (∃ start ∈ _, String.toList start <+: field.name.toList))

theorem isRelation_iff_role (field : FieldDefinition) :
    field.IsRelation ↔ Role.ofName field.name ≠ .scalar := by
  unfold FieldDefinition.IsRelation Role.ofName startsWith
  simp only [List.isPrefixOf_iff_prefix, List.mem_cons, List.not_mem_nil, or_false,
    exists_eq_or_imp, exists_eq_left]
  split
  · next belongs => exact iff_of_true (Or.inl belongs) (by decide)
  split
  · next associate => exact iff_of_true (Or.inr (Or.inl associate)) (by decide)
  split
  · next many => exact iff_of_true (Or.inr (Or.inr many)) (by decide)
  · next belongs associate many =>
    exact iff_of_false (fun start => start.elim belongs (fun start => start.elim associate many))
      (not_not_intro rfl)

/-- A field that is stored as the identity of one other row. -/
def FieldDefinition.IsKey (field : FieldDefinition) : Prop :=
  ∃ start ∈ ["belongsTo", "associateTo"], start.toList <+: field.name.toList

instance : DecidablePred FieldDefinition.IsKey := fun field =>
  inferInstanceAs (Decidable (∃ start ∈ _, String.toList start <+: field.name.toList))

/-- A relation to any number of rows, which is stored in a table of its own. -/
def FieldDefinition.IsToMany (field : FieldDefinition) : Prop :=
  "hasAndBelongsToMany".toList <+: field.name.toList

instance : DecidablePred FieldDefinition.IsToMany := fun field =>
  inferInstanceAs (Decidable ("hasAndBelongsToMany".toList <+: field.name.toList))

theorem isKey_iff_role (field : FieldDefinition) :
    field.IsKey ↔
      Role.ofName field.name = .belongsTo ∨ Role.ofName field.name = .associateTo := by
  unfold FieldDefinition.IsKey Role.ofName startsWith
  simp only [List.isPrefixOf_iff_prefix, List.mem_cons, List.not_mem_nil, or_false,
    exists_eq_or_imp, exists_eq_left]
  split
  · next belongs => exact iff_of_true (Or.inl belongs) (Or.inl rfl)
  split
  · next associate => exact iff_of_true (Or.inr associate) (Or.inr rfl)
  · next belongs associate =>
    refine iff_of_false (fun start => start.elim belongs associate) ?_
    split <;> decide

theorem isToMany_iff_role (field : FieldDefinition) :
    field.IsToMany ↔ Role.ofName field.name = .hasAndBelongsToMany := by
  -- No name begins in two ways.
  have apart (start : String) (shorter : start.toList.length ≤ "hasAndBelongsToMany".toList.length)
      (other : ¬start.toList <+: "hasAndBelongsToMany".toList)
      (begins : start.toList <+: field.name.toList) : ¬field.IsToMany :=
    fun many => other (List.prefix_of_prefix_length_le begins many shorter)
  unfold Role.ofName startsWith
  simp only [List.isPrefixOf_iff_prefix]
  split
  · next belongs => exact iff_of_false (apart _ (by decide) (by decide) belongs) (by decide)
  split
  · next associate => exact iff_of_false (apart _ (by decide) (by decide) associate) (by decide)
  split
  · next many => exact iff_of_true many rfl
  · next many => exact iff_of_false many (by decide)

theorem classify_eq_ok_iff (field : FieldDefinition) (type table : String)
    (classified : ClassifiedField) :
    field.classify type table = .ok classified ↔
      ∃ target modifiers, field.type.target? = some target ∧
        Modifiers.ofField type field = .ok modifiers ∧
          field.inRole table target modifiers = classified := by
  rw [FieldDefinition.classify, bind_eq_ok]
  simp only [bind_eq_ok, Except.ok.injEq]
  have target : ∀ stored, field.target type = .ok stored ↔ field.type.target? = some stored := by
    intro stored
    unfold FieldDefinition.target
    split
    · next found => rw [found, Except.ok.injEq, Option.some.injEq]
    · next found => simp [found]
  simp only [target, exists_and_left]

/-- A field adds to its table what it comes to in its role. -/
theorem contribution_eq_ok_iff (definition : TypeDefinition) (field : FieldDefinition)
    (part : Contribution) :
    definition.contribution field = .ok part ↔
      ∃ target modifiers, field.type.target? = some target ∧
        Modifiers.ofField definition.name field = .ok modifiers ∧
          (field.inRole (tableName definition.name) target modifiers).contribution
            (tableName definition.name) = part := by
  rw [TypeDefinition.contribution, bind_eq_ok]
  simp only [classify_eq_ok_iff, Except.ok.injEq]
  constructor
  · rintro ⟨classified, ⟨target, modifiers, stored, asked, rfl⟩, same⟩
    exact ⟨target, modifiers, stored, asked, same⟩
  · rintro ⟨target, modifiers, stored, asked, same⟩
    exact ⟨_, ⟨target, modifiers, stored, asked, rfl⟩, same⟩

/-- A relation to many rows adds a join table and nothing else. -/
theorem contribution_of_isToMany (definition : TypeDefinition) (field : FieldDefinition)
    (part : Contribution) (many : field.IsToMany) (found : definition.contribution field = .ok part) :
    ∃ target, field.type.target? = some target ∧
      part =
        { joinTables := [.between (tableName definition.name) (tableName target.name)] } := by
  obtain ⟨target, modifiers, stored, -, rfl⟩ := (contribution_eq_ok_iff ..).mp found
  refine ⟨target, stored, ?_⟩
  rw [FieldDefinition.inRole, (isToMany_iff_role field).mp many]
  rfl

/-- No other field adds a join table. -/
theorem joinTables_of_contribution (definition : TypeDefinition) (field : FieldDefinition)
    (part : Contribution) (other : ¬field.IsToMany)
    (found : definition.contribution field = .ok part) : part.joinTables = [] := by
  obtain ⟨target, modifiers, -, -, rfl⟩ := (contribution_eq_ok_iff ..).mp found
  rw [isToMany_iff_role] at other
  unfold FieldDefinition.inRole
  cases role : Role.ofName field.name with
  | scalar => rfl
  | belongsTo => rfl
  | associateTo => rfl
  | hasAndBelongsToMany => exact absurd role other

/-- A key that no directive names is in the usual column. -/
theorem inRole_of_relation (field : FieldDefinition) (table : String) (target : TargetType)
    (modifiers : Modifiers) (usual : modifiers.foreignKey = none)
    (relation : Role.ofName field.name = .belongsTo ∨ Role.ofName field.name = .associateTo) :
    ∃ key, (field.inRole table target modifiers = .belongsTo key ∨
        field.inRole table target modifiers = .associateTo key) ∧
      key.column = foreignKey (tableName target.name) := by
  refine ⟨.toType target.name modifiers.foreignKey, ?_, by rw [usual]; rfl⟩
  unfold FieldDefinition.inRole
  rcases relation with role | role <;> rw [role]
  · exact Or.inl rfl
  · exact Or.inr rfl

/-- For a type that is its own singular, the keys of relations to it and of its join tables are in
the column `<type>_id` exactly if its last word is not misread. -/
theorem usual_key_iff (typeName : String)
    (singular : singularize (snakeCase typeName) = snakeCase typeName) :
    (singularize (pluralize (snakeCase typeName)) = snakeCase typeName ↔
      isMisread (lastWord (snakeCase typeName)) = false) ∧
    (foreignKey (tableName typeName) = snakeCase typeName ++ "_id" ↔
      isMisread (lastWord (snakeCase typeName)) = false) ∧
    (∀ (field : FieldDefinition) (type table : String) (classified : ClassifiedField)
      (nonNull : Bool), field.classify type table = .ok classified →
      field.type.target? = some ⟨typeName, nonNull⟩ → field.hasDirective "foreignKey" = false →
      Role.ofName field.name = .belongsTo ∨ Role.ofName field.name = .associateTo →
      ∃ key, (classified = .belongsTo key ∨ classified = .associateTo key) ∧
        (key.column = snakeCase typeName ++ "_id" ↔
          isMisread (lastWord (snakeCase typeName)) = false)) ∧
    ∀ other, ((JoinTable.between (tableName typeName) other).ownerKey = snakeCase typeName ++ "_id" ↔
        isMisread (lastWord (snakeCase typeName)) = false) ∧
      ((JoinTable.between other (tableName typeName)).targetKey = snakeCase typeName ++ "_id" ↔
        isMisread (lastWord (snakeCase typeName)) = false) := by
  have column := Name.foreignKey_tableName_iff typeName singular
  refine ⟨Name.singularize_pluralize_iff typeName singular, column, ?_, fun other => ⟨column, column⟩⟩
  intro field type table classified nonNull found target usual relation
  obtain ⟨stored, modifiers, storedTarget, ofField, rfl⟩ :=
    (classify_eq_ok_iff field type table classified).mp found
  rw [target, Option.some.injEq] at storedTarget
  obtain ⟨key, role, same⟩ := inRole_of_relation field table stored modifiers
    (foreignKey_eq_none type field modifiers ofField usual) relation
  refine ⟨key, role, ?_⟩
  rw [same, ← storedTarget]
  exact column

theorem usual_key_blogPost :
    singularize (snakeCase "BlogPost") = snakeCase "BlogPost" ∧
      foreignKey (tableName "BlogPost") = snakeCase "BlogPost" ++ "_id" ∧
      ∃ key, (ClassifiedField.belongsTo (.toType "BlogPost" none) = .belongsTo key ∨
          ClassifiedField.belongsTo (.toType "BlogPost" none) = .associateTo key) ∧
        (key.column = snakeCase "BlogPost" ++ "_id" ↔
          isMisread (lastWord (snakeCase "BlogPost")) = false) :=
  have singular : singularize (snakeCase "BlogPost") = snakeCase "BlogPost" := by decide
  ⟨singular, (usual_key_iff "BlogPost" singular).2.1.mpr (by decide),
    (usual_key_iff "BlogPost" singular).2.2.1 { name := "belongsToPost", type := .named "BlogPost" }
      "Comment" "comments" _ false rfl rfl rfl (Or.inl (by decide))⟩

/-- The plural `movies` is read as the plural of `movy`. -/
theorem foreignKey_movie :
    singularize (snakeCase "Movie") = snakeCase "Movie" ∧
      singularize (pluralize (snakeCase "Movie")) ≠ snakeCase "Movie" ∧
      foreignKey (tableName "Movie") = "movy_id" ∧
      foreignKey (tableName "Movie") ≠ snakeCase "Movie" ++ "_id" := by
  decide

end RecordSql
