import RecordSql.Error
import RecordSql.Insert.Cell
import RecordSql.Json.Reader
import RecordSql.Keyed
import RecordSql.Name.Words
import RecordSql.Sql.Quoted

/-!
Insertion of records. A batch holds the records of one entity; its columns are those of its first
record, and every row gives the values of its own record in their own order.
-/

namespace RecordSql

/-- The values of a row under the names of their columns. -/
abbrev Record (α : Type) := Keyed α

/-- The records of every entity. -/
abbrev Batches (α : Type) := Keyed (List (Record α))

section
variable {α : Type} [Cell α]

def Record.row (record : Record α) : String :=
  let literals := record.values.map (fun value => Sql.quoted '\'' (Cell.text value))
  "(" ++ ", ".intercalate literals ++ ")"

/-- The statement that inserts the records of an entity. There has to be a first record. -/
def insertBatch (entity : String) (records : List (Record α)) : Except Error String :=
  match records with
  | [] => .error (.emptyBatch entity)
  | first :: _ =>
      .ok ("INSERT INTO " ++ Name.snakeCase entity ++ " (" ++ ", ".intercalate first.keys ++
        ") VALUES " ++ ",\n".intercalate (records.map Record.row) ++ ";")

/-- The statements of all batches, one after the other. -/
def Batches.sql (batches : Batches α) : Except Error String := do
  let statements ← batches.entries.mapM (fun batch => insertBatch batch.1 batch.2)
  .ok ("\n".intercalate statements)

end

namespace Batches
open Json (Fault Value)

/-- A record of members in the order of their text. -/
def recordOfMembers (members : List (String × Value)) : Record Value :=
  Keyed.ofList (members.map (fun member => (member.1, member.2.merged)))

/-- Batches of JSON values from an object of lists of objects. -/
def ofText (text : String) : Except Fault (Batches Value) := do
  let batches ← Json.document (Json.objectOf (Json.listOf (Json.objectOf Json.value))) text
  .ok (Keyed.ofList (batches.map (fun batch => (batch.1, batch.2.map recordOfMembers))))

end Batches

/-- Reads batches and writes the statements that insert them. -/
def insertOfText (text : String) : Except Error String := do
  let batches ← (Batches.ofText text).mapError .batchText
  batches.sql

end RecordSql
