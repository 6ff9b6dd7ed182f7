import RecordSql.Decimal.Layout
import RecordSql.Unicode.Mark
import RecordSql.Unicode.Printable

/-!
What is wrong with a JSON text: faults of its syntax, and values that do not have the wanted shape.
A reader reports the fault that it meets first.
-/

namespace RecordSql.Json

/-- The kind of value that a text holds where another is wanted. -/
inductive Found where
  | null
  | boolean (value : Bool)
  | integer (value : Int)
  | float (value : Binary64)
  | string (value : String)
  | sequence
  | map
deriving DecidableEq

/-- What a reader asks for. -/
inductive Wanted where
  | string
  | boolean
  | sequence
  | map
  | record (name : String)
  | taggedUnion (name : String)
  | variantName
deriving DecidableEq

inductive Fault where
  | endInValue
  | endInList
  | endInObject
  | endInString
  | noValue
  | noWord
  | noColon
  | noListSeparator
  | noObjectSeparator
  | trailingComma
  | keyNotString
  | trailingCharacters
  | invalidNumber
  | numberOutOfRange
  | invalidEscape
  | loneSurrogate
  | unfinishedSurrogate
  | controlCharacter
  | tooDeep
  | missingField (name : String)
  | duplicateField (name : String)
  | unknownField (name : String) (known : String)
  | unknownVariant (name : String) (known : List String)
  | variantIndex (index : Int) (count : Nat)
  | noVariant (union : String)
  | wrongType (found : Found) (wanted : Wanted)
  | shortRecord (length : Nat) (name : String) (size : Nat)
  | emptyVariant (union variant : String)
  | longVariant (length : Nat)
deriving DecidableEq

/-- Floats with at least one digit after the point, in scientific form from `10 ^ 16` on and below
`10 ^ -5`. A tie goes to the even digit. -/
def floatLayout : Decimal.Layout :=
  ⟨.toEven, fun exponent => -5 ≤ exponent && exponent ≤ 15, true⟩

def floatText (value : Binary64) : String := String.ofList (floatLayout.text value)

/-- A character of a quoted text in a message. Quotes, backslashes and control characters are
escaped, and so is what could not be told apart in print. -/
def shownChar (c : Char) : List Char :=
  match c with
  | '"' => ['\\', '"']
  | '\\' => ['\\', '\\']
  | '\n' => ['\\', 'n']
  | '\r' => ['\\', 'r']
  | '\t' => ['\\', 't']
  | '\x00' => ['\\', '0']
  | c =>
      if Unicode.isExtending c || !Unicode.isPrintable c then
        '\\' :: 'u' :: '{' :: (Nat.toDigits 16 c.toNat ++ ['}'])
      else [c]

def shownText (text : String) : String :=
  "\"" ++ String.ofList (text.toList.flatMap shownChar) ++ "\""

def Found.description : Found → String
  | .null => "null"
  | .boolean value => "boolean `" ++ (if value then "true" else "false") ++ "`"
  | .integer value => "integer `" ++ value.repr ++ "`"
  | .float value => "floating point `" ++ floatText value ++ "`"
  | .string value => "string " ++ shownText value
  | .sequence => "sequence"
  | .map => "map"

def Wanted.description : Wanted → String
  | .string => "a string"
  | .boolean => "a boolean"
  | .sequence => "a sequence"
  | .map => "a map"
  | .record name => "struct " ++ name
  | .taggedUnion name => "internally tagged enum " ++ name
  | .variantName => "variant identifier"

private def quotedName (name : String) : String := "`" ++ name ++ "`"

def Fault.message : Fault → String
  | .endInValue => "EOF while parsing a value"
  | .endInList => "EOF while parsing a list"
  | .endInObject => "EOF while parsing an object"
  | .endInString => "EOF while parsing a string"
  | .noValue => "expected value"
  | .noWord => "expected ident"
  | .noColon => "expected `:`"
  | .noListSeparator => "expected `,` or `]`"
  | .noObjectSeparator => "expected `,` or `\x7d`"
  | .trailingComma => "trailing comma"
  | .keyNotString => "key must be a string"
  | .trailingCharacters => "trailing characters"
  | .invalidNumber => "invalid number"
  | .numberOutOfRange => "number out of range"
  | .invalidEscape => "invalid escape"
  | .loneSurrogate => "lone leading surrogate in hex escape"
  | .unfinishedSurrogate => "unexpected end of hex escape"
  | .controlCharacter => "control character (\\u0000-\\u001F) found while parsing a string"
  | .tooDeep => "recursion limit exceeded"
  | .missingField name => "missing field " ++ quotedName name
  | .duplicateField name => "duplicate field " ++ quotedName name
  | .unknownField name known =>
      "unknown field " ++ quotedName name ++ ", expected " ++ quotedName known
  | .unknownVariant name known =>
      "unknown variant " ++ quotedName name ++ ", expected one of " ++
        ", ".intercalate (known.map quotedName)
  | .variantIndex index count =>
      "invalid value: " ++ (Found.integer index).description ++
        ", expected variant index 0 <= i < " ++ count.repr
  | .noVariant union => "data did not match any variant of untagged enum " ++ union
  | .wrongType found wanted =>
      "invalid type: " ++ found.description ++ ", expected " ++ wanted.description
  | .shortRecord length name size =>
      "invalid length " ++ length.repr ++ ", expected struct " ++ name ++ " with " ++ size.repr ++
        " elements"
  | .emptyVariant union variant =>
      "invalid length 0, expected struct variant " ++ union ++ "::" ++ variant ++
        " with 1 element"
  | .longVariant length =>
      "invalid length " ++ length.repr ++ ", expected 1 element in sequence"

end RecordSql.Json
