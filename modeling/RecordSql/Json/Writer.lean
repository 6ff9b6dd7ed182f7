import RecordSql.Json.Fault
import RecordSql.Json.Text
import RecordSql.Json.Value

/-!
Compact JSON text: no blanks, members in order, floats with their shortest digits. What is not a
finite number is written as `null`.
-/

namespace RecordSql.Json

def writeFloat (value : Binary64) : List Char :=
  if value.isFinite then floatLayout.text value else "null".toList

mutual

def Value.write : Value → List Char
  | .null => "null".toList
  | .boolean true => "true".toList
  | .boolean false => "false".toList
  | .integer value => value.repr.toList
  | .float value => writeFloat value
  | .string value => Text.write value
  | .array items => '[' :: (writeItems items ++ [']'])
  | .object members => '\x7b' :: (writeMembers members ++ ['\x7d'])

/-- Items with commas between them. -/
def writeItems : List Value → List Char
  | [] => []
  | [item] => item.write
  | item :: items => item.write ++ ',' :: writeItems items

/-- Members with commas between them. -/
def writeMembers : List (String × Value) → List Char
  | [] => []
  | [(key, value)] => Text.write key ++ ':' :: value.write
  | (key, value) :: members => Text.write key ++ ':' :: (value.write ++ ',' :: writeMembers members)

end

def Value.text (value : Value) : String := String.ofList value.write

end RecordSql.Json
