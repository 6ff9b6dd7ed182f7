import RecordSql.Name.Words
import RecordSql.Name.Inflection

/-!
Names of tables and of the columns that refer to them.
-/

namespace RecordSql.Name

/-- The table of a record type: the plural of its name in snake case. -/
def tableName (typeName : String) : String := pluralize (snakeCase typeName)

/-- The column that refers to a table, unless a field names another. -/
def foreignKey (table : String) : String := singularize table ++ "_id"

end RecordSql.Name
