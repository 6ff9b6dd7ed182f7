import RecordSql.Json.Skip

/-!
Records: values with named fields, written as an object or as a list of the fields in order. A
`Shape` says which fields there are and how each is read; `record` reads either form.
-/

namespace RecordSql.Json

/-- A field of a record that is built up in a value of type `σ`. -/
structure Field (σ : Type) where
  key : String
  isRequired : Bool
  isPresent : σ → Bool
  read : σ → Reader σ

/-- The fields of a record, required ones first, and the record that they make up. -/
structure Shape (σ α : Type) where
  name : String
  fields : List (Field σ)
  /-- Whether an object may hold no other keys. -/
  isClosed : Bool
  start : σ
  finish : σ → Except Fault α

/-- A field whose value is found under `get` as soon as it is read. -/
def Field.of {σ α : Type} (key : String) (isRequired : Bool) (get : σ → Option α)
    (set : α → σ → σ) (read : Reader α) : Field σ where
  key := key
  isRequired := isRequired
  isPresent state := (get state).isSome
  read state text := do
    let (value, rest) ← read text
    .ok (set value state, rest)

/-- A field that has to be there when the record ends. -/
def required {α : Type} (key : String) : Option α → Except Fault α
  | some value => .ok value
  | none => .error (.missingField key)

/-- Reads one member of an object. A repeated field is a fault before its value is looked at. -/
def Shape.member {σ α : Type} (shape : Shape σ α) (state : σ) (key : String) : Reader σ :=
  fun text =>
    match shape.fields.find? (fun field => field.key = key) with
    | some field =>
        if field.isPresent state then .error (.duplicateField key)
        else do field.read state (← colon text)
    | none =>
        if shape.isClosed then
          .error (.unknownField key ((shape.fields.head?.map Field.key).getD ""))
        else do
          let rest ← skip (← colon text)
          .ok (state, rest)

/-- Reads the fields that are left of a list, `count` of them being read. -/
def Shape.elements {σ α : Type} (shape : Shape σ α) : List (Field σ) → Nat → σ → Reader σ
  | [], _, state, text => do
      let rest ← closeList text
      .ok (state, rest)
  | field :: fields, count, state, text => do
      match ← nextItem (count == 0) text with
      | .stop rest =>
          if field.isRequired then .error (.shortRecord count shape.name shape.fields.length)
          else .ok (state, rest)
      | .item text => do
          let (state, rest) ← field.read state text
          shape.elements fields (count + 1) state rest

/-- Reads a record in either form. -/
def record {σ α : Type} (shape : Nat → Shape σ α) (depth : Nat) : Reader α := fun text =>
  match skipBlank text with
  | '[' :: rest => do
      let shape := shape (← enter depth)
      let (state, rest) ← shape.elements shape.fields 0 shape.start rest
      let value ← shape.finish state
      .ok (value, rest)
  | '\x7b' :: rest => do
      let shape := shape (← enter depth)
      let (state, rest) ← members shape.member shape.start rest
      let value ← shape.finish state
      .ok (value, rest)
  | other => .error (mismatch (.record (shape depth).name) other)

end RecordSql.Json
