import RecordSql.Json.Writer

/-!
Values that can stand in a record. A statement needs nothing of them but their text.
-/

namespace RecordSql

/-- A value with a text, as it is before it is quoted. -/
class Cell (α : Type) where
  text : α → String

instance : Cell String := ⟨fun value => value⟩

instance : Cell Int64 := ⟨fun value => value.toInt.repr⟩

instance : Cell Binary64 := ⟨Decimal.plainText⟩

instance : Cell Bool := ⟨fun value => if value then "true" else "false"⟩

/-- Strings are taken as they are, other JSON values in compact form. -/
def Json.Value.cellText : Json.Value → String
  | .string value => value
  | other => other.text

instance : Cell Json.Value := ⟨Json.Value.cellText⟩

end RecordSql
