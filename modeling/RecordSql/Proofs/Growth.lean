import RecordSql.Compile
import RecordSql.Proofs.Schema.RecordTypes
import RecordSql.Schema.Growth

/-!
What becomes of the statements of a schema when a definition is added to it. The definition can only
bear on the statements of its own type: those of the other types stay what they are, and where they
are among each other.
-/

namespace RecordSql

/-- The statements of every record type, each type compiled by itself. -/
def Catalog.blocks (catalog : Catalog) (options : CompileOptions) :
    List (String × Except Error String) :=
  catalog.entries.map (fun entry => (entry.1, entry.2.ddl options))

theorem filter_upsert {α : Type} (key : String) (value : α) (entries : List (String × α)) :
    (upsert key value entries).filter (fun entry => entry.1 ≠ key) =
      entries.filter (fun entry => entry.1 ≠ key) := by
  induction entries with
  | nil => simp [upsert]
  | cons entry entries ih =>
    unfold upsert
    split
    · next same => simp [same]
    · rw [List.filter_cons, List.filter_cons, ih]

theorem ddl_of_tables (definitions : List TypeDefinition) (options : CompileOptions)
    (specs : List TableSpec)
    (specified : definitions.mapM (fun definition => definition.table options.useDefaultModel) =
      .ok specs) :
    definitions.map (fun definition => definition.ddl options) =
      (specs.map TableSpec.sql).map .ok := by
  rw [mapM_eq_ok_iff] at specified
  induction specified with
  | nil => rfl
  | cons first _ ih =>
    rw [List.map_cons, List.map_cons, List.map_cons, ih, TypeDefinition.ddl, first]
    rfl

/-- If every type can be compiled, the statements of a catalog are those of its types, with line
breaks between them. -/
theorem ddl_of_blocks (catalog : Catalog) (options : CompileOptions)
    (compiled : ∀ block ∈ catalog.blocks options, ∃ text, block.2 = .ok text) :
    ∃ texts, (catalog.blocks options).map Prod.snd = texts.map .ok ∧
      catalog.ddl options = .ok ("\n".intercalate texts) := by
  cases specified : catalog.tables options with
  | error error =>
    obtain ⟨definition, first, fails⟩ := (mapM_eq_error_iff _ _ _).mp specified
    obtain ⟨entry, member, rfl⟩ := List.mem_map.mp first.mem
    obtain ⟨text, found⟩ := compiled _ (List.mem_map_of_mem member)
    rw [TypeDefinition.ddl, fails] at found
    contradiction
  | ok specs =>
    refine ⟨specs.map TableSpec.sql, ?_, ?_⟩
    · rw [← ddl_of_tables catalog.values options specs specified, Catalog.blocks, Keyed.values,
        List.map_map, List.map_map]
      rfl
    · rw [Catalog.ddl, specified]
      rfl

namespace Schema

theorem catalog_addDefinition (schema : Schema) (definition : TypeDefinition) (catalog : Catalog)
    (extracted : schema.catalog = .ok catalog) :
    (schema.addDefinition definition).catalog = catalog.add definition := by
  rw [Schema.catalog] at extracted ⊢
  rw [addDefinition, List.foldlM_append, extracted]
  exact bind_pure (catalog.add definition)

theorem ddl_of_catalog (schema : Schema) (catalog : Catalog) (options : CompileOptions)
    (extracted : schema.catalog = .ok catalog) : schema.ddl options = catalog.ddl options := by
  rw [ddl, extracted]
  rfl

/-- The definitions of a catalog are a schema with the same catalog. -/
theorem catalog_values (schema : Schema) (catalog : Catalog)
    (extracted : schema.catalog = .ok catalog) :
    ({ definitions := catalog.values } : Schema).catalog = .ok catalog := by
  have entry := entry_of_catalog schema catalog extracted
  have record : ∀ definition ∈ catalog.values, definition.IsRecord := by
    intro definition member
    obtain ⟨own, inEntries, rfl⟩ := List.mem_map.mp member
    exact (entry own inEntries).1
  have known : ∀ definition ∈ catalog.values, ¬definition.IsUnknown := by
    rintro definition member ⟨-, text, other⟩
    have object := (record definition member).2
    rw [other] at object
    contradiction
  have records : ({ definitions := catalog.values } : Schema).records = catalog.values :=
    List.filter_eq_self.mpr (fun definition member => decide_eq_true (record definition member))
  have named : catalog.values.map (fun record => (record.name, record)) = catalog.entries := by
    rw [Keyed.values, List.map_map]
    conv_rhs => rw [← List.map_id catalog.entries]
    apply List.map_congr_left
    intro own member
    exact Prod.ext (entry own member).2 rfl
  rw [catalog_of_known { definitions := catalog.values } known, records, named,
    Keyed.ofList_entries]

theorem blocks_of_add (catalog next : Catalog) (definition : TypeDefinition)
    (options : CompileOptions) (added : catalog.add definition = .ok next) :
    (next.blocks options).filter (fun block => block.1 ≠ definition.name) =
      (catalog.blocks options).filter (fun block => block.1 ≠ definition.name) := by
  obtain ⟨-, -, rfl⟩ | ⟨-, rfl⟩ := Catalog.add_cases added
  · simp only [Catalog.blocks, Keyed.entries_insert, List.filter_map, Function.comp_def,
      filter_upsert]
  · rfl

/-- A definition that is passed over changes nothing. A record type under a new name comes last, and
one under a name of the catalog takes the place of the definition there. The names of a catalog are
those of the record types in the order of their first declarations, each with the last. Whatever
is added, the other types keep their statements and their order. -/
theorem addDefinition_blockwise (schema : Schema) (definition : TypeDefinition) (catalog : Catalog)
    (extracted : schema.catalog = .ok catalog) :
    (¬IsOrdinaryName definition.name ∨ definition.kind ∈ [.scalar, .interface, .union] →
      (schema.addDefinition definition).catalog = .ok catalog ∧
        ∀ options, (schema.addDefinition definition).ddl options = schema.ddl options) ∧
    (IsOrdinaryName definition.name → definition.kind = .object →
      ∃ next : Catalog, (schema.addDefinition definition).catalog = .ok next ∧
        (definition.name ∉ catalog.keys →
          next.entries = catalog.entries ++ [(definition.name, definition)]) ∧
        (definition.name ∈ catalog.keys →
          next.entries = catalog.entries.map (fun entry =>
            if entry.1 = definition.name then (definition.name, definition) else entry))) ∧
    catalog.keys = schema.recordNames ∧
    (∀ name, catalog.get? name = schema.lastRecord? name) ∧
    ({ definitions := catalog.values } : Schema).catalog = .ok catalog ∧
    ∀ next, (schema.addDefinition definition).catalog = .ok next → ∀ options,
      (next.blocks options).filter (fun block => block.1 ≠ definition.name) =
          (catalog.blocks options).filter (fun block => block.1 ≠ definition.name) ∧
        ((∀ block ∈ next.blocks options, ∃ text, block.2 = .ok text) →
          ∃ texts, (next.blocks options).map Prod.snd = texts.map .ok ∧
            (schema.addDefinition definition).ddl options = .ok ("\n".intercalate texts)) := by
  have grown := catalog_addDefinition schema definition catalog extracted
  refine ⟨?_, ?_, keys_of_catalog schema catalog extracted, get?_of_catalog schema catalog extracted,
    catalog_values schema catalog extracted, ?_⟩
  · intro passed
    have same : (schema.addDefinition definition).catalog = .ok catalog := by
      rw [grown]
      apply catalog.add_passed
      · rintro ⟨ordinary, object⟩
        rw [object] at passed
        exact passed.elim (fun excluded => excluded ordinary) (by decide)
      · rintro ⟨ordinary, text, other⟩
        rw [other] at passed
        exact passed.elim (fun excluded => excluded ordinary) (by simp)
    refine ⟨same, fun options => ?_⟩
    rw [ddl_of_catalog _ catalog options same, ddl_of_catalog schema catalog options extracted]
  · intro ordinary object
    refine ⟨_, grown.trans (catalog.add_record definition ⟨ordinary, object⟩), ?_, ?_⟩
    · exact upsert_fresh definition.name definition catalog.entries
    · exact upsert_present definition.name definition catalog.entries catalog.nodup
  · intro next added options
    refine ⟨blocks_of_add catalog next definition options (grown.symm.trans added), ?_⟩
    intro compiled
    rw [ddl_of_catalog _ next options added]
    exact ddl_of_blocks next options compiled

/-- Users are declared again, after blogs, with a name that they had not before. -/
theorem addDefinition_blockwise_user :
    let user : TypeDefinition := { kind := .object, name := "User" }
    let blog : TypeDefinition :=
      { kind := .object, name := "Blog", fields := [{ name := "title", type := .named "String" }] }
    let namedUser := user.addField { name := "name", type := .named "String" }
    ∃ catalog next : Catalog,
      ({ definitions := [user, blog] } : Schema).catalog = .ok catalog ∧
      ({ definitions := [user, blog, namedUser] } : Schema).catalog = .ok next ∧
      catalog.entries = [("User", user), ("Blog", blog)] ∧
      next.entries = [("User", namedUser), ("Blog", blog)] ∧
      (next.blocks ⟨false⟩).filter (fun block => block.1 ≠ "User") =
        (catalog.blocks ⟨false⟩).filter (fun block => block.1 ≠ "User") := by
  intro user blog namedUser
  have entries : ({ definitions := [user, blog] } : Schema).catalog.toOption.map Keyed.entries =
      some [("User", user), ("Blog", blog)] := by decide
  cases extracted : ({ definitions := [user, blog] } : Schema).catalog with
  | error error =>
    rw [extracted] at entries
    contradiction
  | ok catalog =>
    rw [extracted] at entries
    have entries : catalog.entries = [("User", user), ("Blog", blog)] := Option.some.inj entries
    have grown := addDefinition_blockwise { definitions := [user, blog] } namedUser catalog extracted
    obtain ⟨next, added, -, present⟩ := grown.2.1 (by decide) rfl
    refine ⟨catalog, next, rfl, added, entries, ?_, (grown.2.2.2.2.2 next added ⟨false⟩).1⟩
    rw [present (by rw [Keyed.keys, entries]; decide), entries]
    decide

end Schema

end RecordSql
