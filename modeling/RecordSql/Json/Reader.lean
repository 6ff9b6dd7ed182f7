import RecordSql.Json.Number
import RecordSql.Json.Text

/-!
Readers of values, lists and objects. Lists and objects may be nested up to `maxDepth`.
-/

namespace RecordSql.Json

/-- The number of lists and objects that may be open at once. -/
def maxDepth : Nat := 127

/-- Reads the items that are left of a list and its closing bracket. Every item is at least one
character long, so `fuel` need not exceed the length of the text by more than one. -/
def itemsFrom {α : Type} (read : Reader α) : Nat → Bool → Reader (List α)
  | 0, _, _ => .error .endInList
  | fuel + 1, isFirst, text => do
      match ← nextItem isFirst text with
      | .stop rest => .ok ([], rest)
      | .item text => do
          let (item, rest) ← read text
          let (items, rest) ← itemsFrom read fuel false rest
          .ok (item :: items, rest)

/-- Reads a list after its opening bracket. -/
def items {α : Type} (read : Reader α) : Reader (List α) := fun text =>
  itemsFrom read (text.length + 1) true text

/-- Reads the members that are left of an object and its closing brace. What is read under a key
may depend on the members before it, of which `state` keeps account. -/
def membersFrom {σ : Type} (read : σ → String → Reader σ) : Nat → Bool → σ → Reader σ
  | 0, _, _, _ => .error .endInObject
  | fuel + 1, isFirst, state, text => do
      match ← nextKey isFirst text with
      | .stop rest => .ok (state, rest)
      | .item text => do
          let (key, rest) ← Text.read text
          let (state, rest) ← read state key rest
          membersFrom read fuel false state rest

/-- Reads an object after its opening brace. The reader of a member begins before the colon. -/
def members {σ : Type} (read : σ → String → Reader σ) (start : σ) : Reader σ := fun text =>
  membersFrom read (text.length + 1) true start text

/-- Reads what follows a key and adds it to the members before, latest first. -/
def pushMember {α : Type} (read : Reader α) (before : List (String × α)) (key : String) :
    Reader (List (String × α)) := fun text => do
  let rest ← colon text
  let (value, rest) ← read rest
  .ok ((key, value) :: before, rest)

/-- Reads an object after its opening brace, all members alike and in the order of the text. -/
def entries {α : Type} (read : Reader α) : Reader (List (String × α)) := fun text => do
  let (latestFirst, rest) ← members (pushMember read) [] text
  .ok (latestFirst.reverse, rest)

/-- Reads a value that is neither a list nor an object. -/
def scalar : Reader Value
  | [] => .error .endInValue
  | c :: text =>
      if c = 'n' then do
        let rest ← expectWord "ull".toList text
        .ok (.null, rest)
      else if c = 't' then do
        let rest ← expectWord "rue".toList text
        .ok (.boolean true, rest)
      else if c = 'f' then do
        let rest ← expectWord "alse".toList text
        .ok (.boolean false, rest)
      else if c = '"' then do
        let (body, rest) ← Text.read text
        .ok (.string body, rest)
      else if c = '-' || c.isDigit then Number.read (c :: text)
      else .error .noValue

/-- Reads any value with at most `depth` lists and objects inside each other. -/
def value : Nat → Reader Value
  | 0, text =>
      match skipBlank text with
      | '[' :: _ => .error .tooDeep
      | '\x7b' :: _ => .error .tooDeep
      | rest => scalar rest
  | depth + 1, text =>
      match skipBlank text with
      | '[' :: rest => do
          let (content, rest) ← items (value depth) rest
          .ok (.array content, rest)
      | '\x7b' :: rest => do
          let (content, rest) ← entries (value depth) rest
          .ok (.object content, rest)
      | rest => scalar rest

def Value.found : Value → Found
  | .null => .null
  | .boolean value => .boolean value
  | .integer value => .integer value
  | .float value => .float value
  | .string value => .string value
  | .array _ => .sequence
  | .object _ => .map

/-- The fault of a text that does not begin with what is wanted. Lists and objects are not looked
into; any other value has to be read first. -/
def mismatch (wanted : Wanted) : List Char → Fault
  | '[' :: _ => .wrongType .sequence wanted
  | '\x7b' :: _ => .wrongType .map wanted
  | text =>
      match scalar text with
      | .ok (value, _) => .wrongType value.found wanted
      | .error fault => fault

def string : Reader String := fun text =>
  match skipBlank text with
  | '"' :: body => Text.read body
  | other => .error (mismatch .string other)

def boolean : Reader Bool := fun text =>
  match skipBlank text with
  | 't' :: rest => do
      let rest ← expectWord "rue".toList rest
      .ok (true, rest)
  | 'f' :: rest => do
      let rest ← expectWord "alse".toList rest
      .ok (false, rest)
  | other => .error (mismatch .boolean other)

/-- Goes one level down. -/
def enter : Nat → Except Fault Nat
  | 0 => .error .tooDeep
  | depth + 1 => .ok depth

/-- Reads a list of items of one kind. -/
def listOf {α : Type} (read : Nat → Reader α) (depth : Nat) : Reader (List α) := fun text =>
  match skipBlank text with
  | '[' :: rest => do items (read (← enter depth)) rest
  | other => .error (mismatch .sequence other)

/-- Reads an object whose members are all of one kind. -/
def objectOf {α : Type} (read : Nat → Reader α) (depth : Nat) : Reader (List (String × α)) :=
  fun text =>
    match skipBlank text with
    | '\x7b' :: rest => do entries (read (← enter depth)) rest
    | other => .error (mismatch .map other)

/-- Reads a text that holds one value and nothing else. -/
def document {α : Type} (read : Nat → Reader α) (text : String) : Except Fault α := do
  let (value, rest) ← read maxDepth text.toList
  if (skipBlank rest).isEmpty then .ok value else .error .trailingCharacters

end RecordSql.Json
