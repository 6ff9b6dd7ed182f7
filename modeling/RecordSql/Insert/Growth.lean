import RecordSql.Insert.Batch

/-!
Batches that grow: records are added to an entity, and cells to its last record. Nothing is added
to an entity that is not there.
-/

namespace RecordSql.Batches
variable {α : Type}

/-- Adds a record without cells. -/
def addRecord (batches : Batches α) (entity : String) : Batches α :=
  match batches.get? entity with
  | some records => batches.insert entity (records ++ [Keyed.empty])
  | none => batches

/-- The last record of an entity. -/
def lastRecord? (batches : Batches α) (entity : String) : Option (Record α) :=
  (batches.get? entity).bind List.getLast?

/-- Sets a cell of the last record of an entity. -/
def setCell (batches : Batches α) (entity column : String) (value : α) : Batches α :=
  match batches.get? entity with
  | some records =>
      batches.insert entity
        (records.modify (records.length - 1) (fun record => record.insert column value))
  | none => batches

end RecordSql.Batches
