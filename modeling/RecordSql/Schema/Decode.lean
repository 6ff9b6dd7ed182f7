import RecordSql.Json.Record
import RecordSql.Schema.Basic

/-!
Schemas from JSON. Literals and type references are read as JSON first and interpreted afterwards;
the form of a type reference is looked at as soon as it is met. All other records are read field by
field.
-/

namespace RecordSql
open Json (Value Fault Reader Shape required)

/-- The literal of a JSON value. Integers beyond 64 bits with a sign are floats. -/
def Literal.ofJson? : Value → Option Literal
  | .boolean value => some (boolean value)
  | .integer value =>
      if Int64.minValue.toInt ≤ value && value ≤ Int64.maxValue.toInt then
        some (int (Int64.ofInt value))
      else (Binary64.ofDecimal? (value < 0) value.natAbs 0).map float
  | .float value => some (float value)
  | .string value => some (string value)
  | _ => none

def Literal.read (depth : Nat) : Reader Literal := fun text => do
  let (content, rest) ← Json.value depth text
  match ofJson? content with
  | some literal => .ok (literal, rest)
  | none => .error (.noVariant "Literal")

namespace TypeReference

/-- The name under which messages refer to type references. -/
def unionName : String := "TypeRef"

def Form.ofName (name : String) : Except Fault Form :=
  match Form.all.find? (fun form => form.name = name) with
  | some form => .ok form
  | none => .error (.unknownVariant name (Form.all.map Form.name))

/-- The form that a JSON value names, or counts in the order of declaration. -/
def Form.ofJson : Value → Except Fault Form
  | .string name => ofName name
  | .integer index =>
      if index < 0 then .error (.wrongType (.integer index) .variantName)
      else match Form.all[index.toNat]? with
        | some form => .ok form
        | none => .error (.variantIndex index Form.all.length)
  | other => .error (.wrongType other.found .variantName)

/-- The form under the key `kind`, which may stand anywhere but only once. -/
def formOf : List (String × Value) → Option Form → Except Fault Form
  | [], found => required "kind" found
  | (key, value) :: members, found =>
      if key = "kind" then
        if found.isSome then .error (.duplicateField "kind")
        else do formOf members (some (← Form.ofJson value))
      else formOf members found

/-- A type name from JSON. -/
def nameOfJson : Value → Except Fault String
  | .string name => .ok name
  | other => .error (.wrongType other.found .string)

/-- The type name under the key `name`. -/
def nameOf : List (String × Value) → Option String → Except Fault String
  | [], found => required "name" found
  | (key, value) :: members, found =>
      if key = "name" then
        if found.isSome then .error (.duplicateField "name")
        else do nameOf members (some (← nameOfJson value))
      else nameOf members found

/-- Refuses a list with more than the one element that a reference holds. -/
def onlyElement {α : Type} (value : α) (others : List Value) : Except Fault α :=
  if others.isEmpty then .ok value else .error (.longVariant (others.length + 1))

/-- A reference of a given form around an inner one. -/
def wrap : Form → TypeReference → TypeReference
  | .list, inner => list inner
  | _, inner => nonNull inner

mutual

/-- The type reference of a JSON value: an object, or a list of the form and its content. -/
def ofJson : Value → Except Fault TypeReference
  | .object members => do ofMembers (← formOf members none) members
  | .array [] => .error (.missingField "kind")
  | .array (form :: content) => do ofElements (← Form.ofJson form) content
  | other => .error (.wrongType other.found (.taggedUnion unionName))

def ofMembers (form : Form) (members : List (String × Value)) : Except Fault TypeReference :=
  match form with
  | .named => do
      let name ← nameOf members none
      .ok (named name)
  | form => do
      let inner ← innerOf members none
      .ok (wrap form inner)

/-- The reference under the key `type`. -/
def innerOf : List (String × Value) → Option TypeReference → Except Fault TypeReference
  | [], found => required "type" found
  | (key, value) :: members, found =>
      if key = "type" then
        if found.isSome then .error (.duplicateField "type")
        else do innerOf members (some (← ofJson value))
      else innerOf members found

def ofElements (form : Form) (content : List Value) : Except Fault TypeReference :=
  match content with
  | [] => .error (.emptyVariant unionName form.name)
  | value :: others =>
      match form with
      | .named => do
          let name ← nameOfJson value
          onlyElement (named name) others
      | form => do
          let inner ← ofJson value
          onlyElement (wrap form inner) others

end

/-- Reads a form from the text. Here it cannot be counted. -/
def readForm : Reader Form := fun text =>
  match Json.skipBlank text with
  | '"' :: body => do
      let (name, rest) ← Json.Text.read body
      let form ← Form.ofName name
      .ok (form, rest)
  | other => .error (Json.mismatch .variantName other)

/-- The form of a reference as far as it is known, and the other members, latest first. -/
structure Draft where
  form : Option Form := none
  others : List (String × Value) := []

def readMember (depth : Nat) (state : Draft) (key : String) : Reader Draft := fun text =>
  if key = "kind" then
    if state.form.isSome then .error (.duplicateField "kind")
    else do
      let rest ← Json.colon text
      let (form, rest) ← readForm rest
      .ok ({ state with form := some form }, rest)
  else do
    let (others, rest) ← Json.pushMember (Json.value depth) state.others key text
    .ok ({ state with others }, rest)

/-- Reads the form of a reference and then its content, after the opening bracket of a list. -/
def readElements (depth : Nat) : Reader TypeReference := fun text => do
  match ← Json.nextItem true text with
  | .stop _ => .error (.missingField "kind")
  | .item text => do
      let (form, rest) ← readForm text
      let (content, rest) ← Json.itemsFrom (Json.value depth) (rest.length + 1) false rest
      let reference ← ofElements form content
      .ok (reference, rest)

def read (depth : Nat) : Reader TypeReference := fun text =>
  match Json.skipBlank text with
  | '[' :: rest => do readElements (← Json.enter depth) rest
  | '\x7b' :: rest => do
      let (state, rest) ← Json.members (readMember (← Json.enter depth)) {} rest
      let form ← required "kind" state.form
      let reference ← ofMembers form state.others.reverse
      .ok (reference, rest)
  | other => .error (Json.mismatch (.taggedUnion unionName) other)

end TypeReference

/-! The other records. A draft holds the fields read so far. -/

structure Argument.Draft where
  name : Option String := none
  value : Option Literal := none

def Argument.shape (depth : Nat) : Shape Draft Argument where
  name := "Argument"
  fields :=
    [.of "name" true Draft.name (fun name draft => { draft with name := some name }) Json.string,
     .of "value" true Draft.value (fun value draft => { draft with value := some value })
       (Literal.read depth)]
  isClosed := false
  start := {}
  finish draft := do
    let name ← required "name" draft.name
    let value ← required "value" draft.value
    .ok { name, value }

structure Directive.Draft where
  name : Option String := none
  arguments : Option (List Argument) := none

def Directive.shape (depth : Nat) : Shape Draft Directive where
  name := "Directive"
  fields :=
    [.of "name" true Draft.name (fun name draft => { draft with name := some name }) Json.string,
     .of "arguments" false Draft.arguments
       (fun arguments draft => { draft with arguments := some arguments })
       (Json.listOf (Json.record Argument.shape) depth)]
  isClosed := false
  start := {}
  finish draft := do
    let name ← required "name" draft.name
    .ok { name, arguments := draft.arguments.getD [] }

structure FieldDefinition.Draft where
  name : Option String := none
  type : Option TypeReference := none
  directives : Option (List Directive) := none

def FieldDefinition.shape (depth : Nat) : Shape Draft FieldDefinition where
  name := "FieldDefinition"
  fields :=
    [.of "name" true Draft.name (fun name draft => { draft with name := some name }) Json.string,
     .of "type" true Draft.type (fun type draft => { draft with type := some type })
       (TypeReference.read depth),
     .of "directives" false Draft.directives
       (fun directives draft => { draft with directives := some directives })
       (Json.listOf (Json.record Directive.shape) depth)]
  isClosed := false
  start := {}
  finish draft := do
    let name ← required "name" draft.name
    let type ← required "type" draft.type
    .ok { name, type, directives := draft.directives.getD [] }

structure TypeDefinition.Draft where
  kind : Option String := none
  name : Option String := none
  fields : Option (List FieldDefinition) := none

def TypeDefinition.shape (depth : Nat) : Shape Draft TypeDefinition where
  name := "TypeDefinition"
  fields :=
    [.of "kind" true Draft.kind (fun kind draft => { draft with kind := some kind }) Json.string,
     .of "name" true Draft.name (fun name draft => { draft with name := some name }) Json.string,
     .of "fields" false Draft.fields (fun fields draft => { draft with fields := some fields })
       (Json.listOf (Json.record FieldDefinition.shape) depth)]
  isClosed := false
  start := {}
  finish draft := do
    let kind ← required "kind" draft.kind
    let name ← required "name" draft.name
    .ok { kind := .ofText kind, name, fields := draft.fields.getD [] }

structure Schema.Draft where
  definitions : Option (List TypeDefinition) := none

def Schema.shape (depth : Nat) : Shape Draft Schema where
  name := "Schema"
  fields :=
    [.of "definitions" false Draft.definitions
       (fun definitions _ => { definitions := some definitions })
       (Json.listOf (Json.record TypeDefinition.shape) depth)]
  isClosed := false
  start := {}
  finish draft := .ok { definitions := draft.definitions.getD [] }

def Literal.ofText (text : String) : Except Fault Literal := Json.document read text

def TypeReference.ofText (text : String) : Except Fault TypeReference := Json.document read text

def FieldDefinition.ofText (text : String) : Except Fault FieldDefinition :=
  Json.document (Json.record shape) text

def TypeDefinition.ofText (text : String) : Except Fault TypeDefinition :=
  Json.document (Json.record shape) text

def Schema.ofText (text : String) : Except Fault Schema := Json.document (Json.record shape) text

end RecordSql
