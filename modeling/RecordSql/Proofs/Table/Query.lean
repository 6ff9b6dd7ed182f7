import RecordSql.Proofs.Table.Modifier

/-!
What a field says of its directives when it is asked, and what they make of its column. The two
agree: a flag is set if some directive asks for it, the last directive for a key names the column,
and every default and every mark of uniqueness is a clause of its own. Directives that the compiler
does not know might as well not be there.
-/

namespace RecordSql

/-- The names of the directives that the compiler knows. -/
def knownDirectives : List String :=
  ["default", "unique", "index", "primary", "autoIncrement", "foreignKey"]

/-- The clause that a directive writes into its column. A default is its first value. -/
inductive Directive.Writes (directive : Directive) : String → Prop where
  | default (value : Literal) (named : directive.name = "default")
      (given : directive.value? = some value) : Writes directive ("DEFAULT " ++ value.sql)
  | unique (named : directive.name = "unique") : Writes directive "UNIQUE"

theorem ofDirective_eq_none_iff (type field : String) (directive : Directive) :
    Modifier.ofDirective type field directive = .ok none ↔ directive.name ∉ knownDirectives := by
  constructor
  · intro passed known
    simp only [knownDirectives, List.mem_cons, List.not_mem_nil, or_false] at known
    rcases known with named | named | named | named | named | named
    · cases given : directive.value? <;> simp [Modifier.ofDirective, named, given] at passed
    · simp [Modifier.ofDirective, named] at passed
    · simp [Modifier.ofDirective, named] at passed
    · simp [Modifier.ofDirective, named] at passed
    · simp [Modifier.ofDirective, named] at passed
    · obtain ⟨column, meaning, -⟩ := namedKey_of_ofDirective type field directive none passed named
      contradiction
  · intro unknown
    simp only [knownDirectives, List.mem_cons, List.not_mem_nil, or_false, not_or] at unknown
    simp [Modifier.ofDirective, unknown]

/-! Clauses. -/

def Modifier.clause? : Modifier → Option String
  | default value => some ("DEFAULT " ++ value.sql)
  | unique => some "UNIQUE"
  | _ => none

theorem foldl_add_clauses (list : List Modifier) (start : Modifiers) :
    (list.foldl Modifiers.add start).clauses = start.clauses ++ list.filterMap Modifier.clause? := by
  induction list generalizing start with
  | nil => simp
  | cons modifier list ih =>
    have own : (start.add modifier).clauses = start.clauses ++ modifier.clause?.toList := by
      cases modifier <;> simp [Modifiers.add, Modifier.clause?]
    rw [List.foldl_cons, ih, own, List.append_assoc, List.filterMap_cons]
    cases modifier.clause? <;> rfl

/-- The meanings of directives write one clause for every directive that writes one. -/
theorem writes_of_meanings (type field : String) (directives : List Directive)
    (meanings : List (Option Modifier))
    (all : List.Forall₂ (fun directive meaning =>
      Modifier.ofDirective type field directive = .ok meaning) directives meanings) :
    List.Forall₂ Directive.Writes
      (directives.filter (fun directive => directive.name ∈ ["default", "unique"]))
      ((meanings.filterMap id).filterMap Modifier.clause?) := by
  induction all with
  | nil => exact .nil
  | @cons directive meaning directives meanings found _ ih =>
    cases meaning with
    | none =>
      have unknown := (ofDirective_eq_none_iff type field directive).mp found
      simp only [knownDirectives, List.mem_cons, not_or] at unknown
      rw [List.filter_cons_of_neg (by simp [unknown])]
      exact ih
    | some modifier =>
      cases meant_of_ofDirective _ _ _ _ found with
      | default value named given =>
        rw [List.filter_cons_of_pos (by simp [named])]
        exact .cons (.default value named given) ih
      | unique named =>
        rw [List.filter_cons_of_pos (by simp [named])]
        exact .cons (.unique named) ih
      | index named | primary named | autoIncrement named | foreignKey _ named =>
        rw [List.filter_cons_of_neg (by simp [named])]
        exact ih

theorem writes_of_ofField (type : String) (field : FieldDefinition) (modifiers : Modifiers)
    (found : Modifiers.ofField type field = .ok modifiers) :
    List.Forall₂ Directive.Writes
      (field.directives.filter (fun directive => directive.name ∈ ["default", "unique"]))
      modifiers.clauses := by
  obtain ⟨meanings, all, same⟩ := (ofField_eq_ok_iff type field modifiers).mp found
  rw [mapM_eq_ok_iff] at all
  rw [← same, foldl_add_clauses]
  exact writes_of_meanings type field.name field.directives meanings all

/-! The column of a key. -/

theorem foreignKey_eq_some_iff (type : String) (field : FieldDefinition) (modifiers : Modifiers)
    (found : Modifiers.ofField type field = .ok modifiers) (column : String) :
    modifiers.foreignKey = some column ↔
      ∃ directive, field.directive? "foreignKey" = some directive ∧
        directive.value? = some (.string column) := by
  have text : ∀ literal : Literal, literal.text? = some column ↔ literal = .string column :=
    fun literal => ⟨text?_eq_some literal column, fun same => same ▸ rfl⟩
  simp only [foreignKey_eq_namedKey type field modifiers found, FieldDefinition.namedKey?,
    Directive.namedKey?, Option.bind_eq_some_iff, text, exists_eq_right]

theorem foreignKey_eq_none_iff (type : String) (field : FieldDefinition) (modifiers : Modifiers)
    (found : Modifiers.ofField type field = .ok modifiers) :
    modifiers.foreignKey = none ↔ field.directive? "foreignKey" = none := by
  rw [foreignKey_eq_namedKey type field modifiers found, FieldDefinition.namedKey?]
  obtain ⟨meanings, all, -⟩ := (ofField_eq_ok_iff type field modifiers).mp found
  cases last : field.directive? "foreignKey" with
  | none => exact iff_of_true rfl rfl
  | some directive =>
    -- The directive has been read, so it names a column.
    have named : directive.name = "foreignKey" := by simpa using List.find?_some last
    have member : directive ∈ field.directives :=
      List.mem_reverse.mp (List.mem_of_find?_eq_some last)
    obtain ⟨meaning, -, own⟩ := exists_mem_of_mapM _ _ _ all directive member
    obtain ⟨column, -, given⟩ := namedKey_of_ofDirective _ _ directive meaning own named
    simp [given]

/-! Directives that do not bear on what is looked at. -/

section
variable {γ : Type} (view : Modifiers → γ) (kept : Directive → Bool)
  (step : ∀ left right, view left = view right →
    ∀ meaning, view (left.addMeaning meaning) = view (right.addMeaning meaning))
include step

theorem map_mapM_filter (type field : String) (directives : List Directive)
    (passed : ∀ directive ∈ directives, kept directive = false → ∃ meaning,
      Modifier.ofDirective type field directive = .ok meaning ∧
        ∀ before : Modifiers, view (before.addMeaning meaning) = view before)
    (left right : Modifiers) (same : view left = view right) :
    ((directives.mapM (Modifier.ofDirective type field)).map
        (fun meanings => meanings.foldl Modifiers.addMeaning left)).map view =
      (((directives.filter kept).mapM (Modifier.ofDirective type field)).map
        (fun meanings => meanings.foldl Modifiers.addMeaning right)).map view := by
  induction directives generalizing left right with
  | nil => exact congrArg Except.ok same
  | cons directive directives ih =>
    have later := ih (fun other member => passed other (List.mem_cons_of_mem directive member))
    cases wanted : kept directive with
    | true =>
      rw [List.filter_cons_of_pos wanted]
      cases own : Modifier.ofDirective type field directive with
      | error error =>
        rw [List.mapM_cons, List.mapM_cons, own]
        rfl
      | ok meaning =>
        rw [map_mapM_cons _ directive _ meaning own, map_mapM_cons _ directive _ meaning own]
        exact later _ _ (step left right same meaning)
    | false =>
      rw [List.filter_cons_of_neg (by simp [wanted])]
      obtain ⟨meaning, own, neutral⟩ := passed directive (List.mem_cons_self ..) wanted
      rw [map_mapM_cons _ directive _ meaning own]
      exact later _ _ ((neutral left).trans same)

/-- Directives that leave a view of the modifiers as it is can be left out. -/
theorem map_ofField_filter (type : String) (field : FieldDefinition)
    (passed : ∀ directive ∈ field.directives, kept directive = false → ∃ meaning,
      Modifier.ofDirective type field.name directive = .ok meaning ∧
        ∀ before : Modifiers, view (before.addMeaning meaning) = view before) :
    (Modifiers.ofField type field).map view =
      (Modifiers.ofField type { field with directives := field.directives.filter kept }).map
        view := by
  rw [ofField_eq_map, ofField_eq_map]
  exact map_mapM_filter view kept step type field.name field.directives passed {} {} rfl

end

/-- Directives under unknown names are passed over. -/
theorem ofField_filter_known (type : String) (field : FieldDefinition) :
    Modifiers.ofField type field =
      Modifiers.ofField type
        { field with
          directives := field.directives.filter
            (fun directive => directive.name ∈ knownDirectives) } := by
  have same := map_ofField_filter id (fun directive => directive.name ∈ knownDirectives)
    (fun _ _ same meaning => congrArg (·.addMeaning meaning) same) type field ?_
  · rwa [Except.map_id, id, id] at same
  · intro directive _ unknown
    exact ⟨none, (ofDirective_eq_none_iff type field.name directive).mpr (by simpa using unknown),
      fun before => rfl⟩

/-- If the directives of a field have a meaning, its modifiers are what it answers when it is asked:
a flag is set if the field has the directive, the last directive for a key names the column of the
key by its first value, and every directive for a default or for uniqueness writes one clause, in
their order. Two fields that differ in unknown directives only have the same modifiers or fail
alike. -/
theorem modifiers_answer_queries :
    (∀ (type : String) (field : FieldDefinition) (modifiers : Modifiers),
      Modifiers.ofField type field = .ok modifiers →
        modifiers.unique = field.hasDirective "unique" ∧
        modifiers.indexed = field.hasDirective "index" ∧
        modifiers.primary = field.hasDirective "primary" ∧
        modifiers.autoIncrement = field.hasDirective "autoIncrement" ∧
        (∀ column, modifiers.foreignKey = some column ↔
          ∃ directive, field.directive? "foreignKey" = some directive ∧
            directive.value? = some (.string column)) ∧
        (modifiers.foreignKey = none ↔ field.directive? "foreignKey" = none) ∧
        List.Forall₂ Directive.Writes
          (field.directives.filter (fun directive => directive.name ∈ ["default", "unique"]))
          modifiers.clauses) ∧
    ∀ (type : String) (field other : FieldDefinition), field.name = other.name →
      field.directives.filter (fun directive => directive.name ∈ knownDirectives) =
          other.directives.filter (fun directive => directive.name ∈ knownDirectives) →
        Modifiers.ofField type field = Modifiers.ofField type other := by
  constructor
  · intro type field modifiers found
    have flag := flag_eq_hasDirective type field modifiers found
    refine ⟨flag Modifiers.unique (.unique, "unique") (by decide) rfl ?_,
      flag Modifiers.indexed (.index, "index") (by decide) rfl ?_,
      flag Modifiers.primary (.primary, "primary") (by decide) rfl ?_,
      flag Modifiers.autoIncrement (.autoIncrement, "autoIncrement") (by decide) rfl ?_,
      foreignKey_eq_some_iff type field modifiers found,
      foreignKey_eq_none_iff type field modifiers found, writes_of_ofField type field modifiers found⟩
    all_goals
      intro before modifier
      cases modifier <;> simp [Modifiers.add]
  · intro type field other names directives
    rw [ofField_filter_known type field, ofField_filter_known type other, directives,
      Modifiers.ofField, Modifiers.ofField, names]

/-! An editor with two keys, an unknown directive, and a default with two values. -/

def editor (comments : List Directive) : FieldDefinition where
  name := "associateToEditor"
  type := .named "User"
  directives :=
    [{ name := "foreignKey", arguments := [⟨"value", .string "author_id"⟩] },
     { name := "unique", arguments := [⟨"value", .string "no"⟩] }] ++ comments ++
    [{ name := "default", arguments := [⟨"note", .int 1⟩, ⟨"value", .int 2⟩, ⟨"value", .int 3⟩] },
     { name := "foreignKey", arguments := [⟨"value", .string "editor_id"⟩] }]

theorem modifiers_answer_queries_editor :
    let modifiers : Modifiers :=
      { clauses := ["UNIQUE", "DEFAULT 2"], unique := true, foreignKey := some "editor_id" }
    Modifiers.ofField "Article" (editor []) = .ok modifiers ∧
      modifiers.unique = (editor []).hasDirective "unique" ∧
      modifiers.indexed = (editor []).hasDirective "index" ∧
      (∃ directive, (editor []).directive? "foreignKey" = some directive ∧
        directive.value? = some (.string "editor_id")) ∧
      List.Forall₂ Directive.Writes
        ((editor []).directives.filter (fun directive => directive.name ∈ ["default", "unique"]))
        modifiers.clauses ∧
      Modifiers.ofField "Article" (editor [{ name := "Unique" }]) =
        Modifiers.ofField "Article" (editor []) := by
  intro modifiers
  have found : Modifiers.ofField "Article" (editor []) = .ok modifiers := by decide
  obtain ⟨unique, indexed, -, -, key, -, clauses⟩ :=
    modifiers_answer_queries.1 "Article" (editor []) modifiers found
  exact ⟨found, unique, indexed, (key "editor_id").mp rfl, clauses,
    modifiers_answer_queries.2 "Article" _ _ rfl (by decide)⟩

end RecordSql
