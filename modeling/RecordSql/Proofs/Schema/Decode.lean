import RecordSql.Compile
import RecordSql.Proofs.Json.Record
import RecordSql.Proofs.Json.Value
import RecordSql.Schema.Encode

/-!
Schemas read back from their JSON text. A literal comes back in the variant that it was written in,
a type reference with its nesting, and every list in its order.
-/

namespace RecordSql
open Json (Value Readable Reads ReadsItem Taken)

def Literal.isFloat : Literal → Bool
  | float _ => true
  | _ => false

theorem Literal.readable_toJson (literal : Literal) (depth : Nat) (exact : literal.isFloat = false) :
    Readable depth literal.toJson := by
  cases literal with
  | boolean value => exact .boolean depth value
  | int value =>
    have size : UInt64.size = 2 ^ 64 := rfl
    have lower := value.le_toInt
    have upper := value.toInt_lt
    exact .integer depth value.toInt (by omega) (by omega)
  | float value => contradiction
  | string value => exact .string depth value

theorem Literal.ofJson?_toJson (literal : Literal) (exact : literal.isFloat = false) :
    ofJson? literal.toJson = some literal := by
  cases literal with
  | boolean value => rfl
  | int value =>
    have inside :
        (Int64.minValue.toInt ≤ value.toInt && value.toInt ≤ Int64.maxValue.toInt) = true := by
      rw [Bool.and_eq_true, decide_eq_true_iff, decide_eq_true_iff]
      exact ⟨value.minValue_le_toInt, value.toInt_le⟩
    rw [toJson, ofJson?, if_pos inside, Int64.ofInt_toInt]
  | float value => contradiction
  | string value => rfl

theorem Literal.reads_toJson (literal : Literal) (depth : Nat) (exact : literal.isFloat = false) :
    Reads (read depth) literal.toJson.write literal := by
  intro rest ends
  have content := (literal.readable_toJson depth exact).reads rest ends
  simp [read, content, literal.ofJson?_toJson exact, bind, Except.bind]

namespace TypeReference

/-- The number of objects inside each other in the JSON of a reference. -/
def depth : TypeReference → Nat
  | named _ => 1
  | nonNull inner => inner.depth + 1
  | list inner => inner.depth + 1

theorem exists_depth (reference : TypeReference) : ∃ less, reference.depth = less + 1 := by
  cases reference <;> exact ⟨_, rfl⟩

/-- The key under which the JSON of a reference has its content. -/
def contentKey : TypeReference → String
  | named _ => "name"
  | _ => "type"

/-- What the JSON of a reference has besides the form. -/
def content : TypeReference → Value
  | named name => .string name
  | nonNull inner => inner.toJson
  | list inner => inner.toJson

theorem toJson_eq (reference : TypeReference) :
    reference.toJson =
      .object [("kind", .string reference.form.name), (reference.contentKey, reference.content)] := by
  cases reference <;> rfl

theorem contentKey_ne (reference : TypeReference) : reference.contentKey ≠ "kind" := by
  cases reference <;> simp [contentKey]

/-! The nesting of a reference is that of its JSON. -/

theorem readable_object (reference : TypeReference) (depth : Nat)
    (readable : Readable depth reference.content) : Readable (depth + 1) reference.toJson := by
  rw [toJson_eq]
  refine .object depth _ (fun member inside => ?_)
  rcases List.mem_pair.mp inside with rfl | rfl
  · exact .string depth reference.form.name
  · exact readable

theorem readable_content (reference : TypeReference) (depth : Nat)
    (fits : reference.depth ≤ depth + 1) : Readable depth reference.content := by
  induction reference generalizing depth with
  | named name => exact .string depth name
  | nonNull inner ih | list inner ih =>
    obtain ⟨less, levels⟩ := inner.exists_depth
    have within : inner.depth ≤ depth := Nat.le_of_succ_le_succ fits
    obtain ⟨depth, rfl⟩ : ∃ less, depth = less + 1 := ⟨depth - 1, by omega⟩
    exact inner.readable_object depth (ih depth within)

/-! A reference is what its form and its content say. -/

theorem Form.ofName_name (form : Form) : ofName form.name = .ok form := by cases form <;> rfl

theorem formOf_kind (form : Form) (key : String) (content : Value) (other : key ≠ "kind") :
    formOf [("kind", .string form.name), (key, content)] none = .ok form := by
  simp [formOf, Form.ofJson, Form.ofName_name, other, Json.required, bind, Except.bind]

theorem ofMembers_kind (form : Form) (value : Value) (members : List (String × Value)) :
    ofMembers form (("kind", value) :: members) = ofMembers form members := by
  cases form <;> simp [ofMembers, nameOf, innerOf]

theorem ofJson_of_content (reference : TypeReference)
    (meant : ofMembers reference.form [(reference.contentKey, reference.content)] = .ok reference) :
    ofJson reference.toJson = .ok reference := by
  rw [toJson_eq, ofJson, formOf_kind _ _ _ reference.contentKey_ne, ← meant, ← ofMembers_kind]
  rfl

theorem ofMembers_content (reference : TypeReference) :
    ofMembers reference.form [(reference.contentKey, reference.content)] = .ok reference := by
  induction reference with
  | named name =>
    simp [form, contentKey, content, ofMembers, nameOf, nameOfJson, Json.required, bind,
      Except.bind]
  | nonNull inner ih | list inner ih =>
    have own := inner.ofJson_of_content ih
    simp [form, contentKey, content, ofMembers, innerOf, own, Json.required, wrap, bind,
      Except.bind]

/-! The form is read at once, and the content as JSON. -/

theorem readForm_name (form : Form) : Reads readForm (Value.string form.name).write form := by
  intro rest _
  obtain ⟨body, quoted, named⟩ := Json.Text.read_write form.name rest
  rw [Value.write, quoted, readForm, Json.skipBlank_cons '"' _ (by decide)]
  simp [named, Form.ofName_name, bind, Except.bind]

theorem readMember_kind (depth : Nat) (form : Form) :
    Reads (readMember depth {} "kind") (':' :: (Value.string form.name).write)
      { form := some form } := by
  intro rest ends
  simp [readMember, Json.colon_cons, readForm_name form rest ends, bind, Except.bind]

theorem readMember_other (depth : Nat) (state : Draft) (key : String) (content : Value)
    (other : key ≠ "kind") (readable : Readable depth content) :
    Reads (readMember depth state key) (':' :: content.write)
      { state with others := (key, content) :: state.others } := by
  intro rest ends
  have pushed := readable.reads.pushMember state.others key rest ends
  rw [List.cons_append] at pushed
  simp [readMember, other, pushed, bind, Except.bind]

theorem reads_toJson (reference : TypeReference) (depth : Nat) (fits : reference.depth ≤ depth) :
    Reads (read depth) reference.toJson.write reference := by
  intro rest _
  obtain ⟨depth, rfl⟩ : ∃ less, depth = less + 1 :=
    ⟨depth - 1, by have := reference.exists_depth; omega⟩
  have taken : Taken (readMember depth)
      [("kind", .string reference.form.name), (reference.contentKey, reference.content)] {}
      ⟨some reference.form, [(reference.contentKey, reference.content)]⟩ :=
    .cons (readMember_kind depth reference.form)
      (.cons (readMember_other depth _ _ _ reference.contentKey_ne
        (reference.readable_content depth fits)) .nil)
  have inner := Json.members_write _ _ _ _ taken rest
  rw [toJson_eq, Value.write, List.cons_append, List.append_assoc, List.singleton_append, read,
    Json.skipBlank_cons '\x7b' _ (by decide)]
  simp [Json.enter, inner, Json.required, reference.ofMembers_content, bind, Except.bind]

end TypeReference

/-! The other records, from the innermost outwards. -/

theorem Argument.reads_toJson (argument : Argument) (depth : Nat)
    (exact : argument.value.isFloat = false) :
    Reads (Json.record shape (depth + 1)) argument.toJson.write argument :=
  Json.record_reads shape depth _ _ argument
    (.field rfl rfl (Json.string_write argument.name)
      (.field rfl rfl (argument.value.reads_toJson depth exact) .nil)) rfl

theorem Directive.reads_toJson (directive : Directive) (depth : Nat)
    (exact : ∀ argument ∈ directive.arguments, argument.value.isFloat = false) :
    Reads (Json.record shape (depth + 3)) directive.toJson.write directive := by
  have arguments := Json.listOf_write (Json.record Argument.shape) (depth + 1) Argument.toJson
    directive.arguments (fun argument member =>
      ⟨Json.opensItem_object _, argument.reads_toJson depth (exact argument member)⟩)
  exact Json.record_reads shape (depth + 2) _ _ directive
    (.field rfl rfl (Json.string_write directive.name) (.field rfl rfl arguments .nil)) rfl

/-- The arguments of the directives of a field. -/
def FieldDefinition.arguments (field : FieldDefinition) : List Argument :=
  field.directives.flatMap Directive.arguments

theorem FieldDefinition.reads_toJson (field : FieldDefinition) (depth : Nat)
    (type : field.type.depth ≤ depth + 4)
    (exact : ∀ argument ∈ field.arguments, argument.value.isFloat = false) :
    Reads (Json.record shape (depth + 5)) field.toJson.write field := by
  have directives := Json.listOf_write (Json.record Directive.shape) (depth + 3) Directive.toJson
    field.directives (fun directive member =>
      ⟨Json.opensItem_object _, directive.reads_toJson depth (fun argument inside =>
        exact argument (List.mem_flatMap.mpr ⟨directive, member, inside⟩))⟩)
  exact Json.record_reads shape (depth + 4) _ _ field
    (.field rfl rfl (Json.string_write field.name)
      (.field rfl rfl (field.type.reads_toJson (depth + 4) type) (.field rfl rfl directives .nil)))
    rfl

theorem DefinitionKind.ofText_text (text : String) : ofText (ofText text).text = ofText text := by
  unfold ofText
  split_ifs <;> simp_all [DefinitionKind.text]

theorem TypeDefinition.reads_toJson (definition : TypeDefinition) (depth : Nat)
    (kind : ∃ text, definition.kind = .ofText text)
    (types : ∀ field ∈ definition.fields, field.type.depth ≤ depth + 4)
    (exact : ∀ field ∈ definition.fields, ∀ argument ∈ field.arguments,
      argument.value.isFloat = false) :
    Reads (Json.record shape (depth + 7)) definition.toJson.write definition := by
  have fields := Json.listOf_write (Json.record FieldDefinition.shape) (depth + 5)
    FieldDefinition.toJson definition.fields (fun field member =>
      ⟨Json.opensItem_object _, field.reads_toJson depth (types field member) (exact field member)⟩)
  obtain ⟨text, spelled⟩ := kind
  have same : DefinitionKind.ofText definition.kind.text = definition.kind := by
    rw [spelled, DefinitionKind.ofText_text]
  refine Json.record_reads shape (depth + 6) _ _ definition
    (.field rfl rfl (Json.string_write definition.kind.text)
      (.field rfl rfl (Json.string_write definition.name) (.field rfl rfl fields .nil))) ?_
  simp [shape, Json.required, same, bind, Except.bind]

/-- The fields of all definitions. -/
def Schema.fields (schema : Schema) : List FieldDefinition :=
  schema.definitions.flatMap TypeDefinition.fields

theorem Schema.reads_toJson (schema : Schema) (depth : Nat)
    (kinds : ∀ definition ∈ schema.definitions, ∃ text, definition.kind = .ofText text)
    (types : ∀ field ∈ schema.fields, field.type.depth ≤ depth + 4)
    (exact : ∀ field ∈ schema.fields, ∀ argument ∈ field.arguments,
      argument.value.isFloat = false) :
    Reads (Json.record shape (depth + 9)) schema.toJson.write schema := by
  have inSchema : ∀ definition ∈ schema.definitions, ∀ field ∈ definition.fields,
      field ∈ schema.fields := fun definition member field inside =>
    List.mem_flatMap.mpr ⟨definition, member, inside⟩
  have definitions := Json.listOf_write (Json.record TypeDefinition.shape) (depth + 7)
    TypeDefinition.toJson schema.definitions (fun definition member =>
      ⟨Json.opensItem_object _, definition.reads_toJson depth (kinds definition member)
        (fun field inside => types field (inSchema definition member field inside))
        (fun field inside => exact field (inSchema definition member field inside))⟩)
  exact Json.record_reads shape (depth + 8) _ _ schema (.field rfl rfl definitions .nil) rfl

/-- A schema is read back from its JSON text just as it was, unless it holds floats: with every
literal in its variant, whatever characters a string has, and every list in its order. Five lists
and objects are open around the type of a field, which may use all that is left of the depth of the
reader. -/
theorem Schema.parse_text (schema : Schema)
    (kinds : ∀ definition ∈ schema.definitions, ∃ text, definition.kind = .ofText text)
    (types : ∀ field ∈ schema.fields, field.type.depth + 5 ≤ Json.maxDepth)
    (exact : ∀ field ∈ schema.fields, ∀ argument ∈ field.arguments,
      argument.value.isFloat = false) :
    Schema.parse schema.toJson.text = .ok schema := by
  -- Of the depth of the reader, `reads_toJson` takes nine levels for the records of a schema.
  have within : ∀ field ∈ schema.fields, field.type.depth ≤ 118 + 4 := fun field member =>
    Nat.le_of_add_le_add_right (types field member)
  have read := Json.document_write (Json.record shape) schema.toJson schema
    (schema.reads_toJson 118 kinds within exact)
  rw [parse, ofText, read]
  rfl

/-- Names and literals that need escapes, the least integer, a reference of three levels around its
name and a kind that nobody knows. -/
def oddities : Schema where
  definitions :=
    [{ kind := .object
       name := "Say \"hi\""
       fields :=
         [{ name := "a\\b\n\x00"
            type := .list (.nonNull (.list (.named "Straße")))
            directives :=
              [{ name := "default"
                 arguments :=
                   [⟨"value", .int Int64.minValue⟩, ⟨"value", .boolean false⟩,
                    ⟨"", .string "\t\x1f/\"é"⟩] },
               { name := "unique" }] }] },
     { kind := .other "EnumTypeDefinition", name := "" }]

theorem Schema.parse_text_oddities : Schema.parse oddities.toJson.text = .ok oddities := by
  refine parse_text oddities ?_ (by decide) (by decide)
  have object : ∃ text, DefinitionKind.object = .ofText text := ⟨"ObjectTypeDefinition", by decide⟩
  have other : ∃ text, DefinitionKind.other "EnumTypeDefinition" = .ofText text :=
    ⟨"EnumTypeDefinition", by decide⟩
  simp [oddities, object, other]

end RecordSql
