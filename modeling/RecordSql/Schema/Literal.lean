import RecordSql.Decimal.Layout
import RecordSql.Sql.Quoted

/-!
Literal values of directive arguments.
-/

namespace RecordSql

inductive Literal where
  | boolean (value : Bool)
  | int (value : Int64)
  | float (value : Binary64)
  | string (value : String)
deriving DecidableEq

namespace Literal

/-- The literal as the operand of a `DEFAULT` clause. Strings stand in double quotes. -/
def sql : Literal → String
  | boolean true => "TRUE"
  | boolean false => "FALSE"
  | int value => value.toInt.repr
  | float value => Decimal.plainText value
  | string value => Sql.quoted '"' value

/-- The text of a string literal. -/
def text? : Literal → Option String
  | string value => some value
  | _ => none

/-- Whether two literals are of one kind and have the same value. Floats are compared as numbers. -/
def agrees : Literal → Literal → Bool
  | float left, float right => left.sameValue right
  | left, right => left == right

end Literal

end RecordSql
