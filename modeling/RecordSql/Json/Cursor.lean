import RecordSql.Json.Fault

/-!
Reading at the front of a text. A reader takes a value off the text and gives back the rest, or the
first fault that it meets. Lists and objects have their punctuation here; what stands between it is
left to the reader of the items.
-/

namespace RecordSql.Json

abbrev Reader (α : Type) := List Char → Except Fault (α × List Char)

def isBlank (c : Char) : Bool := c == ' ' || c == '\n' || c == '\t' || c == '\r'

def skipBlank (text : List Char) : List Char := text.dropWhile isBlank

/-- Reads the characters of a word. -/
def expectWord : List Char → List Char → Except Fault (List Char)
  | [], rest => .ok rest
  | _ :: _, [] => .error .endInValue
  | letter :: word, c :: rest => if c = letter then expectWord word rest else .error .noWord

/-- Where the items of a list or the members of an object stand. -/
inductive Next where
  /-- The closing bracket is read. -/
  | stop (rest : List Char)
  /-- Another item begins. -/
  | item (rest : List Char)

/-- Goes on to the next item of a list. A comma stands before every item but the first. -/
def nextItem (isFirst : Bool) (text : List Char) : Except Fault Next :=
  match skipBlank text, isFirst with
  | [], _ => .error .endInList
  | ']' :: rest, _ => .ok (.stop rest)
  | ',' :: rest, false =>
      match skipBlank rest with
      | [] => .error .endInValue
      | ']' :: _ => .error .trailingComma
      | item => .ok (.item item)
  | item, true => .ok (.item item)
  | _, false => .error .noListSeparator

/-- Goes on to the text of the next key of an object, past its opening quote. -/
def nextKey (isFirst : Bool) (text : List Char) : Except Fault Next :=
  match skipBlank text, isFirst with
  | [], _ => .error .endInObject
  | '\x7d' :: rest, _ => .ok (.stop rest)
  | ',' :: rest, false =>
      match skipBlank rest with
      | [] => .error .endInValue
      | '"' :: key => .ok (.item key)
      | '\x7d' :: _ => .error .trailingComma
      | _ => .error .keyNotString
  | '"' :: key, true => .ok (.item key)
  | _, true => .error .keyNotString
  | _, false => .error .noObjectSeparator

/-- Reads the colon between a key and its value. -/
def colon (text : List Char) : Except Fault (List Char) :=
  match skipBlank text with
  | [] => .error .endInObject
  | ':' :: rest => .ok rest
  | _ => .error .noColon

/-- Reads the end of a list that holds no further item. -/
def closeList (text : List Char) : Except Fault (List Char) :=
  match skipBlank text with
  | [] => .error .endInList
  | ']' :: rest => .ok rest
  | ',' :: rest =>
      match skipBlank rest with
      | ']' :: _ => .error .trailingComma
      | _ => .error .trailingCharacters
  | _ => .error .trailingCharacters

end RecordSql.Json
