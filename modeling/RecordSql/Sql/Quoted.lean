/-!
Quoted literals. The quote character is written twice inside a literal and no other character is
special.
-/

namespace RecordSql.Sql

/-- A text with every `quote` in it doubled. -/
def doubled (quote : Char) (text : List Char) : List Char :=
  text.flatMap (fun c => if c = quote then [c, c] else [c])

/-- A text as it stands between two `quote`s. -/
def escape (quote : Char) (text : String) : String := String.ofList (doubled quote text.toList)

/-- A literal with its quotes. -/
def quoted (quote : Char) (text : String) : String :=
  String.ofList (quote :: (doubled quote text.toList ++ [quote]))

end RecordSql.Sql
