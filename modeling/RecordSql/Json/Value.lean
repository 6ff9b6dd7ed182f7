import RecordSql.Decimal.Binary64
import RecordSql.Keyed

/-!
JSON values. The members of an object are kept as they stand in the text, repeated keys included;
`Value.merged` lets a repeated key keep its first place and take its last value.
-/

namespace RecordSql.Json

inductive Value where
  | null
  | boolean (value : Bool)
  | integer (value : Int)
  | float (value : Binary64)
  | string (value : String)
  | array (items : List Value)
  | object (members : List (String × Value))

mutual

/-- The value with every repeated key merged. -/
def Value.merged : Value → Value
  | .array items => .array (mergedItems items)
  | .object members => .object (mergedMembers members [])
  | value => value

def mergedItems : List Value → List Value
  | [] => []
  | item :: items => item.merged :: mergedItems items

/-- Adds members in turn to those already merged. -/
def mergedMembers : List (String × Value) → List (String × Value) → List (String × Value)
  | [], done => done
  | (key, value) :: members, done => mergedMembers members (upsert key value.merged done)

end

end RecordSql.Json
