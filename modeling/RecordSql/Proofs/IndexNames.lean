import Mathlib.Data.List.Nodup
import RecordSql.Proofs.References

/-!
Names of indexes. A name joins a table and a column by an underscore, and both may hold underscores
of their own. Indexes on different columns bear one name exactly if the table of one goes on, behind
the table of the other and an underscore, with the beginning of that other column.
-/

namespace RecordSql
open Name (tableName)

/-- A column of a table. -/
structure Place where
  table : String
  column : String
deriving DecidableEq

def Index.place (index : Index) : Place := ⟨index.table, index.column⟩

namespace Place

def indexName (place : Place) : String := "idx_" ++ place.table ++ "_" ++ place.column

/-- What the other table has more than the table is the beginning of the column. -/
def RunsInto (place other : Place) : Prop :=
  ∃ middle, other.table = place.table ++ "_" ++ middle ∧
    place.column = middle ++ "_" ++ other.column

end Place

/-- A column that an index is asked for. -/
def FieldDefinition.IsIndexed (field : FieldDefinition) : Prop :=
  ¬field.IsRelation ∧ field.hasDirective "index" = true

instance : DecidablePred FieldDefinition.IsIndexed := fun _ => inferInstanceAs (Decidable (_ ∧ _))

/-- The places of a type's table that an index is asked for. -/
def TypeDefinition.indexedPlaces (definition : TypeDefinition) (useDefaultModel : Bool) :
    List Place :=
  ((definition.ownFields useDefaultModel).filter (fun field => field.IsIndexed)).map
    (fun field => ⟨tableName definition.name, field.name⟩)

def Schema.indexedPlaces (schema : Schema) (useDefaultModel : Bool) : List Place :=
  schema.recordTypes.flatMap (fun definition => definition.indexedPlaces useDefaultModel)

/-- A statement that creates an index, unique or not. -/
def createsIndex (statement : String) : Bool :=
  startsWith "CREATE INDEX " statement || startsWith "CREATE UNIQUE INDEX " statement

/-! One name for two places. -/

theorem append_underscore_eq_iff (table column otherTable otherColumn : List Char) :
    table ++ '_' :: column = otherTable ++ '_' :: otherColumn ↔
      (table = otherTable ∧ column = otherColumn) ∨
        (∃ middle, otherTable = table ++ '_' :: middle ∧ column = middle ++ '_' :: otherColumn) ∨
          ∃ middle, table = otherTable ++ '_' :: middle ∧
            otherColumn = middle ++ '_' :: column := by
  constructor
  · intro same
    rcases List.append_eq_append_iff.mp same with ⟨middle, longer, rest⟩ | ⟨middle, longer, rest⟩
    · rcases List.cons_eq_append_iff.mp rest with ⟨rfl, rest⟩ | ⟨middle, rfl, rest⟩
      · exact Or.inl ⟨by simpa using longer.symm, (List.cons.inj rest).2⟩
      · exact Or.inr (Or.inl ⟨middle, longer, (List.cons.inj rest).2⟩)
    · rcases List.cons_eq_append_iff.mp rest with ⟨rfl, rest⟩ | ⟨middle, rfl, rest⟩
      · exact Or.inl ⟨by simpa using longer, (List.cons.inj rest).2.symm⟩
      · exact Or.inr (Or.inr ⟨middle, longer, (List.cons.inj rest).2⟩)
  · rintro (⟨rfl, rfl⟩ | ⟨middle, rfl, rfl⟩ | ⟨middle, rfl, rfl⟩) <;> simp

namespace Place

theorem toList_indexName (place : Place) :
    place.indexName.toList = "idx_".toList ++ (place.table.toList ++ '_' :: place.column.toList) := by
  simp [indexName]

theorem runsInto_iff (place other : Place) :
    place.RunsInto other ↔ ∃ middle, other.table.toList = place.table.toList ++ '_' :: middle ∧
      place.column.toList = middle ++ '_' :: other.column.toList := by
  unfold RunsInto
  constructor
  · rintro ⟨middle, table, column⟩
    exact ⟨middle.toList, by simp [table], by simp [column]⟩
  · rintro ⟨middle, table, column⟩
    refine ⟨String.ofList middle, ?_, ?_⟩ <;> rw [← String.toList_inj] <;> simp [table, column]

theorem indexName_eq_iff (place other : Place) :
    place.indexName = other.indexName ↔
      place = other ∨ place.RunsInto other ∨ other.RunsInto place := by
  rw [← String.toList_inj, toList_indexName, toList_indexName, List.append_cancel_left_eq,
    append_underscore_eq_iff, runsInto_iff, runsInto_iff, String.toList_inj, String.toList_inj]
  cases place
  cases other
  simp

theorem not_runsInto_self (place : Place) : ¬place.RunsInto place := by
  rw [runsInto_iff]
  rintro ⟨middle, table, -⟩
  have longer := congrArg List.length table
  rw [List.length_append, List.length_cons] at longer
  omega

/-- The names for distinct places are distinct unless one of them runs into another. -/
theorem nodup_map_indexName_iff (places : List Place) (distinct : places.Nodup) :
    (places.map indexName).Nodup ↔
      ∀ place ∈ places, ∀ other ∈ places, ¬place.RunsInto other := by
  rw [List.nodup_map_iff_inj_on distinct]
  constructor
  · intro injective place member other otherMember runs
    have same := injective place member other otherMember
      ((indexName_eq_iff place other).mpr (Or.inr (Or.inl runs)))
    exact not_runsInto_self place (same ▸ runs)
  · intro apart place member other otherMember same
    rcases (indexName_eq_iff place other).mp same with equal | runs | runs
    · exact equal
    · exact absurd runs (apart place member other otherMember)
    · exact absurd runs (apart other otherMember place member)

end Place

/-! The indexes of a schema. -/

theorem places_of_contribution (definition : TypeDefinition) (field : FieldDefinition)
    (part : Contribution) (found : definition.contribution field = .ok part) :
    part.indexes.map Index.place =
      if field.IsIndexed then [⟨tableName definition.name, field.name⟩] else [] := by
  obtain ⟨target, modifiers, -, asked, rfl⟩ := (contribution_eq_ok_iff ..).mp found
  have known : field.IsIndexed ↔ Role.ofName field.name = .scalar ∧ modifiers.indexed = true := by
    rw [FieldDefinition.IsIndexed, isRelation_iff_role, not_not,
      indexed_iff definition.name field modifiers asked]
  unfold FieldDefinition.inRole
  cases role : Role.ofName field.name with
  | scalar =>
    simp only [role, true_and] at known
    cases indexed : modifiers.indexed <;>
      simp [known, indexed, ClassifiedField.contribution, Index.place]
  | belongsTo => simp [known, role, ClassifiedField.contribution]
  | associateTo => simp [known, role, ClassifiedField.contribution]
  | hasAndBelongsToMany => simp [known, role, ClassifiedField.contribution]

theorem places_of_table (definition : TypeDefinition) (useDefaultModel : Bool) (spec : TableSpec)
    (assembled : definition.table useDefaultModel = .ok spec) :
    spec.indexes.map Index.place = definition.indexedPlaces useDefaultModel := by
  obtain ⟨parts, all, rfl⟩ := (table_eq_ok_iff definition useDefaultModel spec).mp assembled
  change (parts.flatMap Contribution.indexes).map Index.place = _
  unfold TypeDefinition.indexedPlaces
  generalize definition.ownFields useDefaultModel = fields at all ⊢
  clear assembled
  induction all with
  | nil => rfl
  | @cons field part fields parts found _ ih =>
    rw [List.flatMap_cons, List.map_append, ih, places_of_contribution definition field part found,
      List.filter_cons]
    by_cases indexed : field.IsIndexed <;> simp [indexed]

theorem places_of_tables (schema : Schema) (options : CompileOptions) (specs : List TableSpec)
    (specified : schema.tables options = .ok specs) :
    (specs.flatMap TableSpec.indexes).map Index.place =
      schema.indexedPlaces options.useDefaultModel := by
  rw [Schema.tables, bind_eq_ok] at specified
  obtain ⟨catalog, extracted, all⟩ := specified
  rw [Catalog.tables, schema.values_of_catalog catalog extracted, mapM_eq_ok_iff] at all
  rw [List.map_flatMap]
  exact flatMap_of_forall₂ all _ _ (fun definition spec found =>
    places_of_table definition _ spec found)

/-- A type whose fields have distinct names asks for no index twice. -/
theorem TypeDefinition.nodup_indexedPlaces (definition : TypeDefinition) (useDefaultModel : Bool)
    (names : (definition.fields.map FieldDefinition.name).Nodup) :
    (definition.indexedPlaces useDefaultModel).Nodup := by
  refine List.Nodup.of_map Place.column ?_
  unfold indexedPlaces
  rw [List.map_map, ownFields_eq_filter]
  exact names.sublist ((List.filter_sublist.trans List.filter_sublist).map FieldDefinition.name)

theorem Schema.nodup_indexedPlaces (schema : Schema) (useDefaultModel : Bool)
    (tables : (schema.recordTypes.map (fun definition => tableName definition.name)).Nodup)
    (fields : ∀ definition ∈ schema.recordTypes,
      (definition.fields.map FieldDefinition.name).Nodup) :
    (schema.indexedPlaces useDefaultModel).Nodup := by
  unfold Schema.indexedPlaces
  rw [List.nodup_flatMap]
  refine ⟨fun definition record => definition.nodup_indexedPlaces _ (fields definition record), ?_⟩
  rw [List.Nodup, List.pairwise_map] at tables
  refine tables.imp ?_
  intro first second apart place inFirst inSecond
  obtain ⟨field, -, rfl⟩ := List.mem_map.mp inFirst
  obtain ⟨other, -, same⟩ := List.mem_map.mp inSecond
  exact apart (Place.mk.inj same).1.symm

/-! The statements that create them. -/

theorem startsWith_append (start rest : String) : startsWith start (start ++ rest) = true := by
  simp [startsWith]

theorem startsWith_append_eq_false {start front : String} (rest : String)
    (neither : startsWith start front = false ∧ startsWith front start = false) :
    startsWith start (front ++ rest) = false := by
  unfold startsWith at neither ⊢
  rw [← Bool.not_eq_true, ← Bool.not_eq_true, List.isPrefixOf_iff_prefix,
    List.isPrefixOf_iff_prefix] at neither
  rw [← Bool.not_eq_true, List.isPrefixOf_iff_prefix, String.toList_append]
  intro starts
  rcases List.prefix_or_prefix_of_prefix starts (List.prefix_append ..) with inside | inside
  · exact neither.1 inside
  · exact neither.2 inside

theorem createsIndex_createTable (name : String) (lines : List String) :
    createsIndex (createTable name lines) = false := by
  unfold createsIndex createTable
  simp only [String.append_assoc]
  rw [startsWith_append_eq_false _ (by decide), startsWith_append_eq_false _ (by decide)]
  rfl

theorem createsIndex_trigger (renewal : UpdateTrigger) : createsIndex renewal.sql = false := by
  unfold createsIndex UpdateTrigger.sql
  simp only [String.append_assoc]
  rw [startsWith_append_eq_false _ (by decide), startsWith_append_eq_false _ (by decide)]
  rfl

theorem createsIndex_index (index : Index) : createsIndex index.sql = true := by
  unfold createsIndex Index.sql
  simp only [String.append_assoc]
  cases index.unique with
  | false =>
    rw [if_neg Bool.false_ne_true, startsWith_append]
    rfl
  | true => rw [if_pos rfl, startsWith_append, Bool.or_true]

/-- The statements of a table that create an index are those of its indexes. -/
theorem filter_createsIndex (spec : TableSpec) :
    spec.statements.filter createsIndex = spec.indexes.map Index.sql := by
  have others : ∀ statement ∈ createTable spec.name spec.lines ::
      (spec.trigger.toList.map UpdateTrigger.sql ++ spec.joinTables.map JoinTable.sql),
      ¬createsIndex statement = true := by
    intro statement member
    rw [Bool.not_eq_true]
    simp only [List.mem_cons, List.mem_append, List.mem_map] at member
    rcases member with rfl | ⟨renewal, -, rfl⟩ | ⟨join, -, rfl⟩
    · exact createsIndex_createTable ..
    · exact createsIndex_trigger renewal
    · exact createsIndex_createTable ..
  have own : ∀ statement ∈ spec.indexes.map Index.sql, createsIndex statement = true := by
    intro statement member
    obtain ⟨index, -, rfl⟩ := List.mem_map.mp member
    exact createsIndex_index index
  rw [TableSpec.statements, ← List.cons_append, List.filter_append,
    List.filter_eq_nil_iff.mpr others, List.filter_eq_self.mpr own, List.nil_append]

/-- In a schema whose tables have distinct names, and the fields of each type too, the names of all
indexes are distinct exactly if no indexed column runs into one of another table. -/
theorem nodup_indexNames_iff (schema : Schema) (options : CompileOptions) (text : String)
    (compiled : schema.ddl options = .ok text)
    (tables : (schema.recordTypes.map (fun definition => tableName definition.name)).Nodup)
    (fields : ∀ definition ∈ schema.recordTypes,
      (definition.fields.map FieldDefinition.name).Nodup) :
    ∃ specs, schema.tables options = .ok specs ∧
      text = "\n".intercalate (specs.map TableSpec.sql) ∧
      (∀ spec ∈ specs, spec.statements.filter createsIndex = spec.indexes.map Index.sql) ∧
      (specs.flatMap TableSpec.indexes).map Index.place =
        schema.indexedPlaces options.useDefaultModel ∧
      (((specs.flatMap TableSpec.indexes).map Index.name).Nodup ↔
        ∀ place ∈ schema.indexedPlaces options.useDefaultModel,
          ∀ other ∈ schema.indexedPlaces options.useDefaultModel, ¬place.RunsInto other) := by
  obtain ⟨specs, specified, rfl⟩ := (ddl_eq_ok_iff schema options text).mp compiled
  have places := places_of_tables schema options specs specified
  have names : (specs.flatMap TableSpec.indexes).map Index.name =
      (schema.indexedPlaces options.useDefaultModel).map Place.indexName := by
    rw [← places, List.map_map]
    rfl
  refine ⟨specs, specified, rfl, fun spec _ => filter_createsIndex spec, places, ?_⟩
  rw [names]
  exact Place.nodup_map_indexName_iff _ (schema.nodup_indexedPlaces _ tables fields)

/-! Users and their posts, with an index on a column of either table. -/

def usersPosts (userField postField : String) : Schema :=
  let indexed (name : String) : FieldDefinition :=
    { name, type := .named "String", directives := [{ name := "index" }] }
  { definitions :=
      [{ kind := .object, name := "User", fields := [indexed userField] },
       { kind := .object, name := "UsersPost", fields := [indexed postField] }] }

def usersPostsText : String :=
  "\nCREATE TABLE users(\n    posts_title TEXT\n);\n" ++
    "CREATE INDEX idx_users_posts_title ON users (posts_title);\n\n" ++
    "\nCREATE TABLE users_posts(\n    title TEXT\n);\n" ++
    "CREATE INDEX idx_users_posts_title ON users_posts (title);\n"

theorem nodup_indexNames_titles :
    ∃ specs, (usersPosts "title" "title").tables ⟨false⟩ = .ok specs ∧
      (specs.flatMap TableSpec.indexes).map Index.name =
        ["idx_users_title", "idx_users_posts_title"] ∧
      ∀ place ∈ (usersPosts "title" "title").indexedPlaces false,
        ∀ other ∈ (usersPosts "title" "title").indexedPlaces false, ¬place.RunsInto other := by
  have compiles : ((usersPosts "title" "title").ddl ⟨false⟩).toOption.isSome = true := by
    decide +kernel
  have named : ((usersPosts "title" "title").tables ⟨false⟩).toOption.map (fun specs =>
      (specs.flatMap TableSpec.indexes).map Index.name) =
        some ["idx_users_title", "idx_users_posts_title"] := by decide +kernel
  cases compiled : (usersPosts "title" "title").ddl ⟨false⟩ with
  | error error =>
    rw [compiled] at compiles
    contradiction
  | ok text =>
    obtain ⟨specs, specified, -, -, -, distinct⟩ := nodup_indexNames_iff _ ⟨false⟩ text compiled
      (by decide +kernel) (by decide +kernel)
    rw [specified] at named
    have names : (specs.flatMap TableSpec.indexes).map Index.name =
        ["idx_users_title", "idx_users_posts_title"] := Option.some.inj named
    refine ⟨specs, specified, names, distinct.mp ?_⟩
    rw [names]
    decide

/-- Tables have distinct names, and the two indexes one. -/
theorem indexNames_usersPosts :
    (usersPosts "posts_title" "title").ddl ⟨false⟩ = .ok usersPostsText ∧
      ((usersPosts "posts_title" "title").recordTypes.map
        (fun definition => tableName definition.name)).Nodup ∧
      (∀ definition ∈ (usersPosts "posts_title" "title").recordTypes,
        (definition.fields.map FieldDefinition.name).Nodup) ∧
      ((usersPosts "posts_title" "title").tables ⟨false⟩).toOption.map (fun specs =>
        (specs.flatMap TableSpec.indexes).map Index.name) =
          some ["idx_users_posts_title", "idx_users_posts_title"] ∧
      ¬["idx_users_posts_title", "idx_users_posts_title"].Nodup := by
  refine ⟨?_, ?_, ?_, ?_, ?_⟩ <;> decide +kernel

end RecordSql
