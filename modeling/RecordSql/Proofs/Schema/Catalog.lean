import RecordSql.Proofs.Except
import RecordSql.Proofs.Keyed
import RecordSql.Schema.Catalog

/-!
A catalog holds definitions of its schema only, and looks at no more of them than their kinds and
their names.
-/

namespace RecordSql

theorem mem_upsert {α : Type} (key : String) (value : α) (entries : List (String × α))
    (entry : String × α) (member : entry ∈ upsert key value entries) :
    entry = (key, value) ∨ entry ∈ entries := by
  induction entries with
  | nil => exact Or.inl (List.mem_singleton.mp member)
  | cons first entries ih =>
    unfold upsert at member
    split at member
    · exact (List.mem_cons.mp member).imp_right (List.mem_cons_of_mem first)
    · rcases List.mem_cons.mp member with rfl | later
      · exact Or.inr (List.mem_cons_self ..)
      · exact (ih later).imp_right (List.mem_cons_of_mem first)

namespace Catalog

/-- A definition is put under its name if it is an object, and else it leaves the catalog as it is. -/
theorem add_cases {catalog next : Catalog} {definition : TypeDefinition}
    (added : catalog.add definition = .ok next) :
    (isExcludedName definition.name = false ∧ definition.kind = .object ∧
        next = catalog.insert definition.name definition) ∨
      ((isExcludedName definition.name = true ∨ definition.kind = .scalar ∨
        definition.kind = .interface ∨ definition.kind = .union) ∧ next = catalog) := by
  unfold add at added
  split at added
  · next excluded => exact Or.inr ⟨Or.inl excluded, (Except.ok.inj added).symm⟩
  · next included =>
    cases kind : definition.kind with
    | object =>
      rw [kind] at added
      exact Or.inl ⟨Bool.eq_false_iff.mpr included, rfl, (Except.ok.inj added).symm⟩
    | scalar =>
      rw [kind] at added
      exact Or.inr ⟨by simp, (Except.ok.inj added).symm⟩
    | interface =>
      rw [kind] at added
      exact Or.inr ⟨by simp, (Except.ok.inj added).symm⟩
    | union =>
      rw [kind] at added
      exact Or.inr ⟨by simp, (Except.ok.inj added).symm⟩
    | other text =>
      rw [kind] at added
      contradiction

theorem mem_values_add {catalog next : Catalog} {definition : TypeDefinition}
    (added : catalog.add definition = .ok next) (found : TypeDefinition)
    (member : found ∈ next.values) : found = definition ∨ found ∈ catalog.values := by
  obtain ⟨-, -, rfl⟩ | ⟨-, rfl⟩ := add_cases added
  · obtain ⟨entry, inEntries, rfl⟩ := List.mem_map.mp member
    rcases mem_upsert _ _ _ _ inEntries with rfl | earlier
    · exact Or.inl rfl
    · exact Or.inr (List.mem_map_of_mem earlier)
  · exact Or.inr member

theorem mem_values_foldlM (definitions : List TypeDefinition) (start final : Catalog)
    (added : definitions.foldlM add start = .ok final) (found : TypeDefinition)
    (member : found ∈ final.values) : found ∈ definitions ∨ found ∈ start.values := by
  induction definitions generalizing start with
  | nil =>
    cases added
    exact Or.inr member
  | cons definition definitions ih =>
    rw [List.foldlM_cons, bind_eq_ok] at added
    obtain ⟨next, first, rest⟩ := added
    rcases ih next rest with later | now
    · exact Or.inl (List.mem_cons_of_mem _ later)
    · rcases mem_values_add first found now with rfl | before
      · exact Or.inl (List.mem_cons_self ..)
      · exact Or.inr before

section
variable (change : TypeDefinition → TypeDefinition)
  (names : ∀ definition, (change definition).name = definition.name)
  (kinds : ∀ definition, (change definition).kind = definition.kind)
include names kinds

theorem add_map (catalog : Catalog) (definition : TypeDefinition) :
    Catalog.add (catalog.map change) (change definition) =
      (catalog.add definition).map (Keyed.map change) := by
  unfold add
  rw [names, kinds]
  split
  · rfl
  · split <;> simp only [Except.map, Keyed.map_insert]

theorem foldlM_map (definitions : List TypeDefinition) (start : Catalog) :
    (definitions.map change).foldlM add (start.map change) =
      (definitions.foldlM add start).map (Keyed.map change) := by
  induction definitions generalizing start with
  | nil => rfl
  | cons definition definitions ih =>
    rw [List.map_cons, List.foldlM_cons, List.foldlM_cons, add_map change names kinds]
    cases start.add definition with
    | error error => rfl
    | ok next => exact ih next

end

section
variable {β : Type} (view : TypeDefinition → β)

theorem add_view (left right : Catalog) (same : left.map view = right.map view)
    (definition other : TypeDefinition) (names : definition.name = other.name)
    (kinds : definition.kind = other.kind) (views : view definition = view other) :
    (left.add definition).map (Keyed.map view) = (right.add other).map (Keyed.map view) := by
  unfold add
  rw [names, kinds]
  split
  · exact congrArg Except.ok same
  · split <;> simp only [Except.map, Keyed.map_insert, same, views]

/-- Definitions that look alike, have the same names and the same kinds make up catalogs that look
alike, or fail alike. -/
theorem foldlM_view (definitions others : List TypeDefinition)
    (all : List.Forall₂ (fun definition other => definition.name = other.name ∧
      definition.kind = other.kind ∧ view definition = view other) definitions others)
    (left right : Catalog) (same : left.map view = right.map view) :
    (definitions.foldlM add left).map (Keyed.map view) =
      (others.foldlM add right).map (Keyed.map view) := by
  induction all generalizing left right with
  | nil => exact congrArg Except.ok same
  | @cons definition other definitions others alike _ ih =>
    obtain ⟨names, kinds, views⟩ := alike
    have step := add_view view left right same definition other names kinds views
    rw [List.foldlM_cons, List.foldlM_cons]
    exact map_bind_congr step _ _ ih

end

end Catalog

/-- Definitions that keep their kinds and names are changed alike in the schema and in the catalog. -/
theorem Schema.catalog_map (schema : Schema) (change : TypeDefinition → TypeDefinition)
    (names : ∀ definition, (change definition).name = definition.name)
    (kinds : ∀ definition, (change definition).kind = definition.kind) :
    Schema.catalog ⟨schema.definitions.map change⟩ = schema.catalog.map (Keyed.map change) :=
  Catalog.foldlM_map change names kinds schema.definitions Keyed.empty

theorem mem_of_catalog (schema : Schema) (catalog : Catalog) (assembled : schema.catalog = .ok catalog)
    (found : TypeDefinition) (member : found ∈ catalog.values) : found ∈ schema.definitions :=
  (Catalog.mem_values_foldlM schema.definitions Keyed.empty catalog assembled found member).elim id
    nofun

end RecordSql
