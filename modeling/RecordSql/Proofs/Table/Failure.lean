import RecordSql.Proofs.First
import RecordSql.Proofs.Table.Specification

/-!
When a field makes its type fail, and with which error. What a field stores is looked at before its
directives, and of several directives the first that lacks its value is reported.
-/

namespace RecordSql

/-- A named type, required or not. -/
def TypeReference.IsNamed (reference : TypeReference) : Prop :=
  ∃ name, reference = .named name ∨ reference = .nonNull (.named name)

/-- The value of a directive is its first argument of that name. -/
def Directive.HasValue (directive : Directive) (value : Literal) : Prop :=
  First (fun argument => argument.name = "value") directive.arguments ⟨"value", value⟩

/-- A default without a value, or a foreign key whose value is not a text. -/
def Directive.LacksValue (directive : Directive) : Prop :=
  directive.name = "default" ∧ (∀ value, ¬directive.HasValue value) ∨
    directive.name = "foreignKey" ∧ ∀ text, ¬directive.HasValue (.string text)

namespace FieldDefinition

/-- A field that is not dropped for a column of the default model. -/
def IsKept (field : FieldDefinition) (useDefaultModel : Bool) : Prop :=
  useDefaultModel = true → field.name ∉ ["id", "created_at", "updated_at"]

def IsFaulty (field : FieldDefinition) : Prop :=
  ¬field.type.IsNamed ∨ ∃ directive ∈ field.directives, directive.LacksValue

/-- The error of a field in a type. -/
inductive Fails (field : FieldDefinition) (type : String) : Error → Prop where
  | reference (other : ¬field.type.IsNamed) :
      Fails field type (.unsupportedReference type field.name field.type.form.name)
  | directive (named : field.type.IsNamed) (directive : Directive)
      (first : First Directive.LacksValue field.directives directive) :
      Fails field type (.missingArgument type field.name directive.name)

end FieldDefinition

/-- A type with a field of its own that is faulty. -/
def TypeDefinition.IsFaulty (definition : TypeDefinition) (useDefaultModel : Bool) : Prop :=
  ∃ field ∈ definition.fields, field.IsKept useDefaultModel ∧ field.IsFaulty

theorem target?_eq_none_iff (reference : TypeReference) :
    reference.target? = none ↔ ¬reference.IsNamed := by
  unfold TypeReference.target? TypeReference.IsNamed
  split <;> simp_all

theorem value?_eq_some_iff (directive : Directive) (value : Literal) :
    directive.value? = some value ↔ directive.HasValue value := by
  unfold Directive.value? Directive.argument? Directive.HasValue
  induction directive.arguments with
  | nil => exact iff_of_false nofun First.not_nil
  | cons argument arguments ih =>
    rw [First.cons_iff, ← ih]
    obtain ⟨name, own⟩ := argument
    by_cases named : name = "value" <;> simp [named, eq_comm]

theorem ofDirective_eq_error_iff (type field : String) (directive : Directive) (error : Error) :
    Modifier.ofDirective type field directive = .error error ↔
      directive.LacksValue ∧ error = .missingArgument type field directive.name := by
  unfold Modifier.ofDirective Directive.LacksValue
  simp only [← value?_eq_some_iff]
  split
  · next named => cases directive.value? <;> simp [named, eq_comm]
  split
  · next named => simp [named]
  split
  · next named => simp [named]
  split
  · next named => simp [named]
  split
  · next named => simp [named]
  split
  · next named =>
    cases directive.value? with
    | none => simp [named, eq_comm]
    | some value => cases value <;> simp [named, Literal.text?, eq_comm]
  · next default _ _ _ _ key => simp [default, key]

theorem addDirective_eq_error_iff (type field : String) (modifiers : Modifiers)
    (directive : Directive) (error : Error) :
    modifiers.addDirective type field directive = .error error ↔
      directive.LacksValue ∧ error = .missingArgument type field directive.name := by
  rw [Modifiers.addDirective, bind_eq_error_iff, ofDirective_eq_error_iff]
  simp

theorem ofField_eq_error_iff (type : String) (field : FieldDefinition) (error : Error) :
    Modifiers.ofField type field = .error error ↔
      ∃ directive, First Directive.LacksValue field.directives directive ∧
        error = .missingArgument type field.name directive.name := by
  rw [Modifiers.ofField, foldlM_eq_error_iff _ _ (addDirective_eq_error_iff type field.name)]
  simp only [exists_and_left, exists_eq, and_true]
  constructor
  · rintro ⟨directive, first, -, same⟩
    exact ⟨directive, first, same⟩
  · rintro ⟨directive, first, same⟩
    exact ⟨directive, first, first.own, same⟩

namespace FieldDefinition

theorem classify_eq_error_iff (field : FieldDefinition) (type table : String) (error : Error) :
    field.classify type table = .error error ↔ field.Fails type error := by
  rw [classify, target]
  cases stored : field.type.target? with
  | none =>
    have other := (target?_eq_none_iff field.type).mp stored
    constructor
    · intro fails
      cases fails
      exact .reference other
    · intro fails
      cases fails with
      | reference _ => rfl
      | directive named => exact absurd named other
  | some target =>
    have named : field.type.IsNamed := by
      by_contra other
      rw [(target?_eq_none_iff field.type).mpr other] at stored
      contradiction
    change (Modifiers.ofField type field >>= _) = _ ↔ _
    rw [bind_eq_error_iff, ofField_eq_error_iff]
    simp only [reduceCtorEq, and_false, exists_false, or_false]
    constructor
    · rintro ⟨directive, first, rfl⟩
      exact .directive named directive first
    · intro fails
      cases fails with
      | reference other => exact absurd named other
      | directive _ directive first => exact ⟨directive, first, rfl⟩

theorem exists_fails_iff (field : FieldDefinition) (type : String) :
    (∃ error, field.Fails type error) ↔ field.IsFaulty := by
  constructor
  · rintro ⟨error, fails⟩
    cases fails with
    | reference other => exact Or.inl other
    | directive _ directive first => exact Or.inr ⟨directive, first.mem, first.own⟩
  · intro faulty
    by_cases named : field.type.IsNamed
    · obtain ⟨directive, first⟩ :=
        (First.exists_iff _ _).mpr (faulty.resolve_left (not_not_intro named))
      exact ⟨_, .directive named directive first⟩
    · exact ⟨_, .reference named⟩

theorem isKept_iff (field : FieldDefinition) (useDefaultModel : Bool) :
    field.IsKept useDefaultModel ↔ (useDefaultModel && field.isReplaced) = false := by
  cases useDefaultModel <;>
    simp [IsKept, isReplaced, ModelColumn.all, ModelColumn.name]

end FieldDefinition

theorem isKept_of_mem_ownFields (definition : TypeDefinition) (useDefaultModel : Bool)
    (field : FieldDefinition) (own : field ∈ definition.ownFields useDefaultModel) :
    field.IsKept useDefaultModel := by
  rw [TypeDefinition.ownFields_eq_filter] at own
  rw [field.isKept_iff, ← Bool.not_eq_true']
  exact (List.mem_filter.mp own).2

namespace TypeDefinition

theorem contribution_eq_error_iff (definition : TypeDefinition) (field : FieldDefinition)
    (error : Error) :
    definition.contribution field = .error error ↔ field.Fails definition.name error := by
  rw [contribution, bind_eq_error_iff, FieldDefinition.classify_eq_error_iff]
  simp

theorem addToTable_eq_error_iff (definition : TypeDefinition) (useDefaultModel : Bool)
    (spec : TableSpec) (field : FieldDefinition) (error : Error) :
    definition.addToTable useDefaultModel spec field = .error error ↔
      field.IsKept useDefaultModel ∧ field.Fails definition.name error := by
  rw [addToTable, field.isKept_iff, ← contribution_eq_error_iff]
  cases useDefaultModel && field.isReplaced <;> simp [bind_eq_error_iff]

/-- A type fails with the error of its first faulty field, dropped fields apart. -/
theorem table_eq_error_iff (definition : TypeDefinition) (useDefaultModel : Bool) (error : Error) :
    definition.table useDefaultModel = .error error ↔
      ∃ field, First (fun field => field.IsKept useDefaultModel ∧ field.IsFaulty) definition.fields
        field ∧ field.Fails definition.name error := by
  have faulty (field : FieldDefinition) :
      (∃ failure, field.IsKept useDefaultModel ∧ field.Fails definition.name failure) ↔
        field.IsKept useDefaultModel ∧ field.IsFaulty := by
    rw [exists_and_left, field.exists_fails_iff]
  rw [table, foldlM_eq_error_iff _ _ (definition.addToTable_eq_error_iff useDefaultModel)]
  simp only [faulty]
  constructor
  · rintro ⟨field, first, -, fails⟩
    exact ⟨field, first, fails⟩
  · rintro ⟨field, first, fails⟩
    exact ⟨field, first, first.own.1, fails⟩

theorem exists_table_error_iff (definition : TypeDefinition) (useDefaultModel : Bool) :
    (∃ error, definition.table useDefaultModel = .error error) ↔
      definition.IsFaulty useDefaultModel := by
  rw [IsFaulty, ← First.exists_iff]
  simp only [table_eq_error_iff]
  constructor
  · rintro ⟨error, field, first, -⟩
    exact ⟨field, first⟩
  · rintro ⟨field, first⟩
    obtain ⟨error, fails⟩ := (field.exists_fails_iff definition.name).mpr first.own.2
    exact ⟨error, field, first, fails⟩

end TypeDefinition

end RecordSql
