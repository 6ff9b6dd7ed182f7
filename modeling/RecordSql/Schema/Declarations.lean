/-!
Declarations of the scalar and the directives that the compiler knows. They are put in front of the
source text of a schema, so that a reader of such text accepts them.
-/

namespace RecordSql

def schemaDeclarations : String :=
  "\nscalar Date\n" ++
  "union scalars = Int | Float | String | Boolean\n" ++
  "directive @default( value: scalars! ) on FIELD_DEFINITION\n" ++
  "\n" ++
  "directive @unique on FIELD_DEFINITION\n" ++
  "directive @index on FIELD_DEFINITION\n" ++
  "directive @foreignKey( value: String! ) on FIELD_DEFINITION\n" ++
  "directive @primary on FIELD_DEFINITION\n" ++
  "directive @autoIncrement on FIELD_DEFINITION\n"

end RecordSql
