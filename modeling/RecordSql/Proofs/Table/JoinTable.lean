import RecordSql.Proofs.Table.ColumnNames

/-!
Columns of join tables. A join table has a key to either of its tables, and a weight. Both keys are
derived from the tables, so they are two columns exactly if the tables have different singulars. A
relation of a type to itself has only one column for its two keys.
-/

namespace RecordSql
open Name (foreignKey singularize snakeCase tableName)

def JoinTable.columnNames (join : JoinTable) : List String :=
  join.columns.filterMap ColumnLine.definedName?

theorem nodup_between_iff (owner target : String) :
    (JoinTable.between owner target).columnNames.Nodup ↔
      singularize owner ≠ singularize target := by
  have weight (table : String) : foreignKey table ≠ "weight" :=
    Name.foreignKey_ne (by decide) table
  change [foreignKey owner, foreignKey target, "weight"].Nodup ↔ _
  rw [Ne, ← Name.foreignKey_eq_iff]
  simp [weight]

theorem isKept_of_isToMany (field : FieldDefinition) (many : field.IsToMany)
    (useDefaultModel : Bool) : field.IsKept useDefaultModel := by
  intro _ reserved
  have apart : ∀ name ∈ ["id", "created_at", "updated_at"],
      ¬"hasAndBelongsToMany".toList <+: name.toList := by decide
  exact apart field.name reserved many

/-- The join table of a relation is among those of the table of its type. -/
theorem mem_joinTables (definition : TypeDefinition) (useDefaultModel : Bool) (spec : TableSpec)
    (assembled : definition.table useDefaultModel = .ok spec) (field : FieldDefinition)
    (declared : field ∈ definition.fields) (many : field.IsToMany) (target : TargetType)
    (stored : field.type.target? = some target) :
    JoinTable.between (tableName definition.name) (tableName target.name) ∈ spec.joinTables := by
  obtain ⟨parts, all, rfl⟩ := (table_eq_ok_iff definition useDefaultModel spec).mp assembled
  have own : field ∈ definition.ownFields useDefaultModel := by
    rw [TypeDefinition.ownFields_eq_filter, List.mem_filter, Bool.not_eq_true', ← field.isKept_iff]
    exact ⟨declared, isKept_of_isToMany field many useDefaultModel⟩
  obtain ⟨part, inParts, found⟩ :=
    exists_mem_of_mapM _ _ _ ((mapM_eq_ok_iff _ _ _).mpr all) field own
  obtain ⟨other, same, rfl⟩ := contribution_of_isToMany definition field part many found
  rw [stored, Option.some.injEq] at same
  rw [same]
  exact List.mem_flatMap.mpr ⟨_, inParts, List.mem_singleton.mpr rfl⟩

/-- The columns of a join table are distinct exactly if the singulars of its two tables are. They
never are for a relation of a type to itself, and always for types of different names that come back
from their plurals. -/
theorem nodup_joinColumns_iff (definition : TypeDefinition) (field : FieldDefinition)
    (classified : ClassifiedField) (many : field.IsToMany)
    (found : field.classify definition.name (tableName definition.name) = .ok classified) :
    ∃ target join, field.type.target? = some target ∧ classified = .hasAndBelongsToMany join ∧
      join.columnNames = [join.ownerKey, join.targetKey, "weight"] ∧
      join.ownerKey ≠ "weight" ∧ join.targetKey ≠ "weight" ∧
      (join.columnNames.Nodup ↔
        singularize (tableName definition.name) ≠ singularize (tableName target.name)) ∧
      (tableName target.name = tableName definition.name → ¬join.columnNames.Nodup) ∧
      (Name.ComesBack definition.name → Name.ComesBack target.name →
        (join.columnNames.Nodup ↔ snakeCase definition.name ≠ snakeCase target.name)) ∧
      ∀ useDefaultModel spec, field ∈ definition.fields →
        definition.table useDefaultModel = .ok spec → join ∈ spec.joinTables := by
  obtain ⟨target, modifiers, stored, -, rfl⟩ := (classify_eq_ok_iff ..).mp found
  have distinct := nodup_between_iff (tableName definition.name) (tableName target.name)
  refine ⟨target, .between (tableName definition.name) (tableName target.name), stored, ?_, rfl,
    Name.foreignKey_ne (by decide) _, Name.foreignKey_ne (by decide) _, distinct, ?_, ?_, ?_⟩
  · rw [FieldDefinition.inRole, (isToMany_iff_role field).mp many]
  · intro same
    rw [distinct, same]
    exact fun apart => apart rfl
  · intro ownerBack targetBack
    rw [distinct, ownerBack.singularize_tableName, targetBack.singularize_tableName]
  · intro useDefaultModel spec declared assembled
    exact mem_joinTables definition useDefaultModel spec assembled field declared many target stored

/-! A user who has badges and friends. -/

def badges : FieldDefinition := { name := "hasAndBelongsToManyBadges", type := .named "Badge" }

def friends : FieldDefinition := { name := "hasAndBelongsToManyFriends", type := .named "User" }

def user : TypeDefinition := { kind := .object, name := "User", fields := [badges, friends] }

theorem nodup_joinColumns_badges :
    ∃ join, badges.classify "User" "users" = .ok (.hasAndBelongsToMany join) ∧
      join.columnNames = ["user_id", "badge_id", "weight"] ∧ join.columnNames.Nodup := by
  have userBack : Name.ComesBack user.name := ⟨by decide, by decide⟩
  have badgeBack : Name.ComesBack "Badge" := ⟨by decide, by decide⟩
  obtain ⟨target, join, stored, same, columns, -, -, -, -, distinct, -⟩ :=
    nodup_joinColumns_iff user badges _ (by decide) rfl
  cases stored
  cases same
  exact ⟨_, rfl, columns, (distinct userBack badgeBack).mpr (by decide)⟩

/-- The two keys of friends are one column. So are those of a person and people, who have different
tables. -/
theorem joinColumns_friends :
    friends.classify user.name (tableName user.name) =
        .ok (.hasAndBelongsToMany (.between "users" "users")) ∧
      (JoinTable.between "users" "users").columnNames = ["user_id", "user_id", "weight"] ∧
      ¬(JoinTable.between "users" "users").columnNames.Nodup ∧
      tableName "Person" ≠ tableName "People" ∧
      ¬(JoinTable.between (tableName "Person") (tableName "People")).columnNames.Nodup := by
  refine ⟨rfl, rfl, ?_, ?_, ?_⟩ <;> decide

end RecordSql
