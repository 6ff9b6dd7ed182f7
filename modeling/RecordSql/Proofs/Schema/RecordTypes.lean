import RecordSql.Proofs.First
import RecordSql.Proofs.Keyed
import RecordSql.Proofs.Schema.Catalog

/-!
The record types of a schema as its declarations tell them: every name stands where it was declared
first, for what it was declared as last. The catalog holds these types and no others, unless there
is a definition of a kind that nobody knows.
-/

namespace RecordSql

/-- A name that is neither private nor that of a built-in type. -/
def IsOrdinaryName (name : String) : Prop :=
  name.toList.head? ≠ some '_' ∧ name ∉ ["Int", "Float", "String", "Boolean", "ID"]

instance : DecidablePred IsOrdinaryName := fun _ => inferInstanceAs (Decidable (_ ∧ _))

theorem isExcludedName_eq_false_iff (name : String) :
    isExcludedName name = false ↔ IsOrdinaryName name := by
  simp [isExcludedName, builtinTypes, IsOrdinaryName]

/-- An object under an ordinary name. -/
def TypeDefinition.IsRecord (definition : TypeDefinition) : Prop :=
  IsOrdinaryName definition.name ∧ definition.kind = .object

instance : DecidablePred TypeDefinition.IsRecord := fun _ => inferInstanceAs (Decidable (_ ∧ _))

/-- A definition of a kind that nobody knows, under an ordinary name. -/
def TypeDefinition.IsUnknown (definition : TypeDefinition) : Prop :=
  IsOrdinaryName definition.name ∧ ∃ text, definition.kind = .other text

namespace Schema

/-- The declarations of record types, those that are declared again later among them. -/
def records (schema : Schema) : List TypeDefinition :=
  schema.definitions.filter (fun definition => definition.IsRecord)

/-- The names of record types in the order of their first declarations. -/
def recordNames (schema : Schema) : List String :=
  (schema.records.map TypeDefinition.name).eraseDups

/-- The last declaration of a record type under a name. -/
def lastRecord? (schema : Schema) (name : String) : Option TypeDefinition :=
  schema.records.reverse.find? (fun definition => definition.name = name)

/-- The record types in the order of their names. -/
def recordTypes (schema : Schema) : List TypeDefinition :=
  schema.recordNames.filterMap schema.lastRecord?

end Schema

namespace Catalog

theorem add_record (catalog : Catalog) (definition : TypeDefinition) (record : definition.IsRecord) :
    catalog.add definition = .ok (catalog.insert definition.name definition) := by
  unfold add
  rw [(isExcludedName_eq_false_iff _).mpr record.1, record.2]
  rfl

theorem add_passed (catalog : Catalog) (definition : TypeDefinition)
    (passed : ¬definition.IsRecord) (known : ¬definition.IsUnknown) :
    catalog.add definition = .ok catalog := by
  unfold add
  split
  · rfl
  · next included =>
    have included := (isExcludedName_eq_false_iff _).mp (Bool.eq_false_iff.mpr included)
    cases kind : definition.kind with
    | object => exact absurd ⟨included, kind⟩ passed
    | other text => exact absurd ⟨included, text, kind⟩ known
    | scalar => rfl
    | interface => rfl
    | union => rfl

theorem add_eq_error_iff (catalog : Catalog) (definition : TypeDefinition) (error : Error) :
    catalog.add definition = .error error ↔
      ∃ text, IsOrdinaryName definition.name ∧ definition.kind = .other text ∧
        error = .unknownKind definition.name text := by
  simp only [← isExcludedName_eq_false_iff]
  unfold add
  cases isExcludedName definition.name with
  | true => simp
  | false => cases definition.kind <;> simp [eq_comm]

/-- Unless one of them is unknown, definitions are added by inserting the records among them. -/
theorem foldlM_add (definitions : List TypeDefinition) (start : Catalog)
    (known : ∀ definition ∈ definitions, ¬definition.IsUnknown) :
    definitions.foldlM add start =
      .ok ((definitions.filter (fun definition => definition.IsRecord)).foldl
        (fun catalog definition => catalog.insert definition.name definition) start) := by
  induction definitions generalizing start with
  | nil => rfl
  | cons definition definitions ih =>
    rw [List.forall_mem_cons] at known
    rw [List.foldlM_cons]
    by_cases record : definition.IsRecord
    · rw [add_record start definition record, List.filter_cons, if_pos (decide_eq_true record)]
      exact ih _ known.2
    · rw [add_passed start definition record known.1, List.filter_cons,
        if_neg (fun holds => record (of_decide_eq_true holds))]
      exact ih _ known.2

end Catalog

namespace Schema

/-- A schema without a catalog has a definition of an unknown kind, and the first of them is the
cause. -/
theorem catalog_eq_error_iff (schema : Schema) (error : Error) :
    schema.catalog = .error error ↔
      ∃ definition text, First TypeDefinition.IsUnknown schema.definitions definition ∧
        definition.kind = .other text ∧ error = .unknownKind definition.name text := by
  have unknown : (fun definition : TypeDefinition => ∃ failure text,
      IsOrdinaryName definition.name ∧ definition.kind = .other text ∧
        failure = Error.unknownKind definition.name text) = TypeDefinition.IsUnknown := by
    funext definition
    simp [TypeDefinition.IsUnknown]
  rw [catalog, foldlM_eq_error_iff Catalog.add _ Catalog.add_eq_error_iff, unknown]
  constructor
  · rintro ⟨definition, first, text, -, kind, same⟩
    exact ⟨definition, text, first, kind, same⟩
  · rintro ⟨definition, text, first, kind, same⟩
    exact ⟨definition, first, text, first.own.1, kind, same⟩

/-- The records under their names, as they are inserted in turn. -/
theorem catalog_of_known (schema : Schema)
    (known : ∀ definition ∈ schema.definitions, ¬definition.IsUnknown) :
    schema.catalog =
      .ok (Keyed.ofList (schema.records.map (fun record => (record.name, record)))) := by
  rw [catalog, Catalog.foldlM_add _ _ known, Keyed.ofList, List.foldl_map]
  rfl

theorem known_of_catalog (schema : Schema) (catalog : Catalog)
    (extracted : schema.catalog = .ok catalog) :
    ∀ definition ∈ schema.definitions, ¬definition.IsUnknown := by
  by_contra unknown
  push Not at unknown
  obtain ⟨definition, first⟩ := (First.exists_iff _ _).mpr unknown
  obtain ⟨-, text, kind⟩ := first.own
  have fails := (schema.catalog_eq_error_iff _).mpr ⟨definition, text, first, kind, rfl⟩
  rw [extracted] at fails
  contradiction

theorem eq_ofList_of_catalog (schema : Schema) (catalog : Catalog)
    (extracted : schema.catalog = .ok catalog) :
    catalog = Keyed.ofList (schema.records.map (fun record => (record.name, record))) := by
  rw [schema.catalog_of_known (known_of_catalog schema catalog extracted)] at extracted
  exact (Except.ok.inj extracted).symm

/-- The names of a catalog stand in the order of their first declarations. -/
theorem keys_of_catalog (schema : Schema) (catalog : Catalog)
    (extracted : schema.catalog = .ok catalog) : catalog.keys = schema.recordNames := by
  rw [eq_ofList_of_catalog schema catalog extracted, Keyed.keys_ofList, List.map_map]
  rfl

/-- A catalog holds the last declaration of every name. -/
theorem get?_of_catalog (schema : Schema) (catalog : Catalog)
    (extracted : schema.catalog = .ok catalog) (name : String) :
    catalog.get? name = schema.lastRecord? name := by
  rw [eq_ofList_of_catalog schema catalog extracted, Keyed.get?_ofList, ← List.map_reverse,
    List.find?_map, lastRecord?, Option.map_map]
  exact Option.map_id'

theorem entries_of_catalog (schema : Schema) (catalog : Catalog)
    (extracted : schema.catalog = .ok catalog) :
    catalog.entries =
      schema.recordNames.filterMap (fun name => (schema.lastRecord? name).map (name, ·)) := by
  rw [Keyed.entries_eq_filterMap, keys_of_catalog schema catalog extracted]
  simp only [get?_of_catalog schema catalog extracted]

theorem values_of_catalog (schema : Schema) (catalog : Catalog)
    (extracted : schema.catalog = .ok catalog) : catalog.values = schema.recordTypes := by
  rw [Keyed.values, entries_of_catalog schema catalog extracted, List.map_filterMap, recordTypes]
  apply List.filterMap_congr
  intro name _
  rw [Option.map_map]
  exact Option.map_id'

theorem lastRecord?_eq_some (schema : Schema) (name : String) (definition : TypeDefinition)
    (found : schema.lastRecord? name = some definition) :
    definition ∈ schema.records ∧ definition.name = name :=
  ⟨List.mem_reverse.mp (List.mem_of_find?_eq_some found), by simpa using List.find?_some found⟩

/-- A record type is the last record under its name. -/
theorem mem_recordTypes_iff (schema : Schema) (definition : TypeDefinition) :
    definition ∈ schema.recordTypes ↔ schema.lastRecord? definition.name = some definition := by
  rw [recordTypes, List.mem_filterMap]
  constructor
  · rintro ⟨name, -, found⟩
    rw [(lastRecord?_eq_some schema name definition found).2]
    exact found
  · intro found
    refine ⟨definition.name, ?_, found⟩
    rw [recordNames, List.mem_eraseDups]
    exact List.mem_map_of_mem (lastRecord?_eq_some schema _ definition found).1

theorem exists_of_mem_recordNames (schema : Schema) (name : String)
    (named : name ∈ schema.recordNames) :
    ∃ definition ∈ schema.recordTypes, definition.name = name := by
  rw [recordNames, List.mem_eraseDups] at named
  obtain ⟨record, inRecords, same⟩ := List.mem_map.mp named
  have declared : (schema.lastRecord? name).isSome = true := by
    rw [lastRecord?, List.find?_isSome]
    exact ⟨record, List.mem_reverse.mpr inRecords, decide_eq_true same⟩
  obtain ⟨definition, found⟩ := Option.isSome_iff_exists.mp declared
  have own := (lastRecord?_eq_some schema name definition found).2
  exact ⟨definition, (mem_recordTypes_iff schema definition).mpr (own ▸ found), own⟩

/-- Every entry of a catalog is a record under its own name. -/
theorem entry_of_catalog (schema : Schema) (catalog : Catalog)
    (extracted : schema.catalog = .ok catalog) (entry : String × TypeDefinition)
    (member : entry ∈ catalog.entries) : entry.2.IsRecord ∧ entry.2.name = entry.1 := by
  have found := (get?_of_catalog schema catalog extracted entry.1).symm.trans
    (catalog.get?_of_mem entry member)
  obtain ⟨record, name⟩ := lastRecord?_eq_some schema entry.1 entry.2 found
  exact ⟨of_decide_eq_true (List.mem_filter.mp record).2, name⟩

end Schema

end RecordSql
