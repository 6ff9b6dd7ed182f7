import RecordSql.Proofs.Except
import RecordSql.Table.Modifier

/-!
Every modifier of a column comes from a directive of its field. One that a directive asks for by its
name alone is set exactly if the field has that directive.
-/

namespace RecordSql

/-- The modifier that a directive stands for. -/
inductive Modifier.Meant (directive : Directive) : Modifier → Prop where
  | default (value : Literal) (named : directive.name = "default")
      (given : directive.value? = some value) : Meant directive (.default value)
  | unique (named : directive.name = "unique") : Meant directive .unique
  | index (named : directive.name = "index") : Meant directive .index
  | primary (named : directive.name = "primary") : Meant directive .primary
  | autoIncrement (named : directive.name = "autoIncrement") : Meant directive .autoIncrement
  | foreignKey (column : String) (named : directive.name = "foreignKey")
      (given : directive.value? = some (.string column)) : Meant directive (.foreignKey column)

theorem text?_eq_some (literal : Literal) (text : String) (found : literal.text? = some text) :
    literal = .string text := by
  cases literal <;> simp_all [Literal.text?]

theorem meant_of_ofDirective (type field : String) (directive : Directive) (modifier : Modifier)
    (found : Modifier.ofDirective type field directive = .ok (some modifier)) :
    Modifier.Meant directive modifier := by
  unfold Modifier.ofDirective at found
  simp only at found
  split at found
  · next named =>
    split at found
    · next value given =>
      cases found
      exact .default value named given
    · contradiction
  split at found
  · next named =>
    cases found
    exact .unique named
  split at found
  · next named =>
    cases found
    exact .index named
  split at found
  · next named =>
    cases found
    exact .primary named
  split at found
  · next named =>
    cases found
    exact .autoIncrement named
  split at found
  · next named =>
    split at found
    · next column given =>
      cases found
      obtain ⟨literal, value, text⟩ := Option.bind_eq_some_iff.mp given
      exact .foreignKey column named (value.trans (congrArg some (text?_eq_some literal column text)))
    · contradiction
  · cases found

/-- The loop over the directives of a field reads them all and adds up what they mean. -/
theorem ofField_eq_map (type : String) (field : FieldDefinition) :
    Modifiers.ofField type field =
      (field.directives.mapM (Modifier.ofDirective type field.name)).map
        (fun meanings => meanings.foldl Modifiers.addMeaning {}) :=
  foldlM_eq_map_mapM (Modifier.ofDirective type field.name) Modifiers.addMeaning field.directives {}

/-- Directives without a meaning add nothing. -/
theorem foldl_addMeaning (meanings : List (Option Modifier)) (start : Modifiers) :
    meanings.foldl Modifiers.addMeaning start =
      (meanings.filterMap id).foldl Modifiers.add start := by
  rw [List.foldl_filterMap]
  congr 1
  funext modifiers meaning
  cases meaning <;> rfl

theorem ofField_eq_ok_iff (type : String) (field : FieldDefinition) (modifiers : Modifiers) :
    Modifiers.ofField type field = .ok modifiers ↔
      ∃ meanings, field.directives.mapM (Modifier.ofDirective type field.name) = .ok meanings ∧
        (meanings.filterMap id).foldl Modifiers.add {} = modifiers := by
  simp only [ofField_eq_map, map_eq_ok, foldl_addMeaning]

/-- The modifiers of a field are added up from meanings of its directives. -/
theorem exists_modifiers (type : String) (field : FieldDefinition) (modifiers : Modifiers)
    (found : Modifiers.ofField type field = .ok modifiers) :
    ∃ list : List Modifier, modifiers = list.foldl Modifiers.add {} ∧
      ∀ modifier ∈ list, ∃ directive ∈ field.directives, Modifier.Meant directive modifier := by
  obtain ⟨meanings, all, same⟩ := (ofField_eq_ok_iff type field modifiers).mp found
  refine ⟨meanings.filterMap id, same.symm, ?_⟩
  intro modifier member
  have inMeanings : some modifier ∈ meanings := by simpa using member
  obtain ⟨directive, inDirectives, own⟩ := exists_of_mem_mapM _ _ _ all _ inMeanings
  exact ⟨directive, inDirectives, meant_of_ofDirective _ _ _ _ own⟩

/-! The column that a field names for its key. -/

/-- The column that a directive names. -/
def Directive.namedKey? (directive : Directive) : Option String :=
  directive.value?.bind Literal.text?

/-- The column that a field names for its key. Of several directives for it, the last one holds. -/
def FieldDefinition.namedKey? (field : FieldDefinition) : Option String :=
  (field.directive? "foreignKey").bind Directive.namedKey?

def Modifier.namedKey? : Modifier → Option String
  | foreignKey column => some column
  | _ => none

theorem foldl_add_foreignKey (list : List Modifier) (start : Modifiers) :
    (list.foldl Modifiers.add start).foreignKey =
      (list.reverse.findSome? Modifier.namedKey?).or start.foreignKey := by
  induction list generalizing start with
  | nil => rfl
  | cons modifier list ih =>
    have own : (start.add modifier).foreignKey = modifier.namedKey?.or start.foreignKey := by
      cases modifier <;> rfl
    rw [List.foldl_cons, ih, own, List.reverse_cons, List.findSome?_append,
      List.findSome?_singleton, Option.or_assoc]

/-- A directive for a key that has a meaning names a column. -/
theorem namedKey_of_ofDirective (type field : String) (directive : Directive)
    (meaning : Option Modifier) (found : Modifier.ofDirective type field directive = .ok meaning)
    (named : directive.name = "foreignKey") :
    ∃ column, meaning = some (.foreignKey column) ∧ directive.namedKey? = some column := by
  cases given : directive.namedKey? with
  | none =>
    rw [Directive.namedKey?] at given
    simp [Modifier.ofDirective, named, given] at found
  | some column =>
    rw [Directive.namedKey?] at given
    simp only [Modifier.ofDirective, named, given] at found
    exact ⟨column, (Except.ok.inj found).symm, rfl⟩

/-- The last key that is meant is the one that the last directive for a key names. -/
theorem findSome?_namedKey (type field : String) (directives : List Directive)
    (meanings : List (Option Modifier))
    (all : List.Forall₂ (fun directive meaning =>
      Modifier.ofDirective type field directive = .ok meaning) directives meanings) :
    (meanings.filterMap id).findSome? Modifier.namedKey? =
      (directives.find? (fun directive => directive.name = "foreignKey")).bind
        Directive.namedKey? := by
  induction all with
  | nil => rfl
  | @cons directive meaning directives meanings found _ ih =>
    by_cases named : directive.name = "foreignKey"
    · obtain ⟨column, rfl, given⟩ :=
        namedKey_of_ofDirective type field directive meaning found named
      rw [List.find?_cons_of_pos (by simpa using named)]
      exact given.symm
    · rw [List.find?_cons_of_neg (by simpa using named), ← ih]
      cases meaning with
      | none => rfl
      | some modifier =>
        have other : modifier.namedKey? = none := by
          cases meant_of_ofDirective _ _ _ _ found with
          | foreignKey _ key => exact absurd key named
          | _ => rfl
        simp [other]

/-- The key of a field is in the column that its last directive for that names. -/
theorem foreignKey_eq_namedKey (type : String) (field : FieldDefinition) (modifiers : Modifiers)
    (found : Modifiers.ofField type field = .ok modifiers) :
    modifiers.foreignKey = field.namedKey? := by
  obtain ⟨meanings, all, same⟩ := (ofField_eq_ok_iff type field modifiers).mp found
  rw [mapM_eq_ok_iff, ← List.forall₂_reverse_iff] at all
  rw [← same, foldl_add_foreignKey, ← List.filterMap_reverse,
    findSome?_namedKey _ _ _ _ all]
  exact Option.or_none

theorem foreignKey_eq_none (type : String) (field : FieldDefinition) (modifiers : Modifiers)
    (found : Modifiers.ofField type field = .ok modifiers)
    (usual : field.hasDirective "foreignKey" = false) : modifiers.foreignKey = none := by
  have none : field.directive? "foreignKey" = none := by
    rw [FieldDefinition.hasDirective, List.any_eq_false] at usual
    rw [FieldDefinition.directive?, List.find?_eq_none]
    exact fun directive member => usual directive (List.mem_reverse.mp member)
  rw [foreignKey_eq_namedKey type field modifiers found, FieldDefinition.namedKey?, none]
  rfl

/-! Modifiers that are either set or not. -/

/-- What one modifier alone sets is set after a list of them if it was before or is in the list. -/
theorem foldl_add_iff (isSet : Modifiers → Prop) (own : Modifier)
    (step : ∀ modifiers modifier, isSet (modifiers.add modifier) ↔ isSet modifiers ∨ modifier = own)
    (list : List Modifier) (start : Modifiers) :
    isSet (list.foldl Modifiers.add start) ↔ isSet start ∨ own ∈ list := by
  induction list generalizing start with
  | nil => simp
  | cons modifier list ih => rw [List.foldl_cons, ih, step, or_assoc, List.mem_cons, eq_comm]

/-- The modifiers that a directive asks for by its name alone. -/
def Modifier.flags : List (Modifier × String) :=
  [(unique, "unique"), (index, "index"), (primary, "primary"), (autoIncrement, "autoIncrement")]

theorem ofDirective_flag_iff (type field : String) (directive : Directive)
    (flag : Modifier × String) (member : flag ∈ Modifier.flags) :
    Modifier.ofDirective type field directive = .ok (some flag.1) ↔ directive.name = flag.2 := by
  simp only [Modifier.flags, List.mem_cons, List.not_mem_nil, or_false] at member
  constructor
  · intro meaning
    have meant := meant_of_ofDirective _ _ _ _ meaning
    rcases member with rfl | rfl | rfl | rfl
    all_goals
      cases meant
      assumption
  · intro named
    rcases member with rfl | rfl | rfl | rfl
    all_goals simp [Modifier.ofDirective, named]

/-- What one such modifier alone sets is set exactly if the field has the directive for it. -/
theorem flag_eq_hasDirective (type : String) (field : FieldDefinition) (modifiers : Modifiers)
    (found : Modifiers.ofField type field = .ok modifiers) (get : Modifiers → Bool)
    (flag : Modifier × String) (member : flag ∈ Modifier.flags) (unset : get {} = false)
    (step : ∀ before modifier,
      get (before.add modifier) = true ↔ get before = true ∨ modifier = flag.1) :
    get modifiers = field.hasDirective flag.2 := by
  obtain ⟨meanings, all, same⟩ := (ofField_eq_ok_iff type field modifiers).mp found
  have inMeanings : flag.1 ∈ meanings.filterMap id ↔ some flag.1 ∈ meanings := by simp
  have asked := ofDirective_flag_iff type field.name
  rw [Bool.eq_iff_iff, ← same,
    foldl_add_iff (fun modifiers => get modifiers = true) flag.1 step, inMeanings,
    mem_mapM_iff _ _ _ all, FieldDefinition.hasDirective, List.any_eq_true]
  simp only [unset, Bool.false_eq_true, false_or, asked _ flag member, decide_eq_true_eq]

theorem indexed_iff (type : String) (field : FieldDefinition) (modifiers : Modifiers)
    (found : Modifiers.ofField type field = .ok modifiers) :
    modifiers.indexed = true ↔ field.hasDirective "index" = true := by
  rw [flag_eq_hasDirective type field modifiers found Modifiers.indexed (.index, "index") (by decide)
    rfl]
  intro before modifier
  cases modifier <;> simp [Modifiers.add]

/-- A column is unique exactly if one of its clauses says so. -/
theorem unique_iff (type : String) (field : FieldDefinition) (modifiers : Modifiers)
    (found : Modifiers.ofField type field = .ok modifiers) :
    modifiers.unique = true ↔ "UNIQUE" ∈ modifiers.clauses := by
  have default : ∀ value : Literal, "UNIQUE" ≠ "DEFAULT " ++ value.sql := by
    intro value same
    have first := congrArg (fun text => text.toList.head?) same
    simp at first
  obtain ⟨list, rfl, -⟩ := exists_modifiers type field modifiers found
  rw [foldl_add_iff (fun modifiers => modifiers.unique = true) .unique,
    foldl_add_iff (fun modifiers => "UNIQUE" ∈ modifiers.clauses) .unique]
  · simp
  · intro modifiers modifier
    cases modifier <;> simp [Modifiers.add, default]
  · intro modifiers modifier
    cases modifier <;> simp [Modifiers.add]

end RecordSql
