import RecordSql.Insert.Batch
import RecordSql.Proofs.Json.Value
import RecordSql.Proofs.Keyed

/-!
Batches as JSON text. Read from it, batches come back with JSON values for cells, and these have the
same text in a statement as the cells themselves.
-/

namespace RecordSql
open Json (Readable Reads Value)
variable {α : Type}

def Record.members (toJson : α → Value) (record : Record α) : List (String × Value) :=
  (record.map toJson).entries

def Record.toJson (toJson : α → Value) (record : Record α) : Value :=
  .object (record.members toJson)

/-- Batches as an object of lists of objects. -/
def Batches.toJson (toJson : α → Value) (batches : Batches α) : Value :=
  .object (batches.map (fun records => .array (records.map (Record.toJson toJson)))).entries

/-- Cells are written as scalars of JSON that have the text of the cells in a statement. -/
structure Encodes [Cell α] (toJson : α → Value) : Prop where
  readable : ∀ depth cell, Readable depth (toJson cell)
  merged : ∀ cell, (toJson cell).merged = toJson cell
  text : ∀ cell, Cell.text (toJson cell) = Cell.text cell

theorem encodes_string : Encodes Value.string where
  readable := .string
  merged _ := rfl
  text _ := rfl

theorem encodes_int64 : Encodes (fun cell : Int64 => Value.integer cell.toInt) where
  readable depth cell := by
    have lower := cell.le_toInt
    have upper := cell.toInt_lt
    refine .integer depth cell.toInt ?_ ?_ <;> simp only [UInt64.size] <;> omega
  merged _ := rfl
  text cell := by
    change String.ofList (Value.integer cell.toInt).write = cell.toInt.repr
    rw [Value.write, String.ofList_toList]

theorem encodes_bool : Encodes Value.boolean where
  readable := .boolean
  merged _ := rfl
  text cell := by cases cell <;> rfl

/-! Reading the text. -/

section
variable (toJson : α → Value) (readable : ∀ depth cell, Readable depth (toJson cell))
include readable

theorem record_reads_toJson (depth : Nat) (record : Record α) :
    Reads (Json.objectOf Json.value (depth + 1)) (record.toJson toJson).write
      (record.members toJson) := by
  have cells : ∀ member ∈ record.members toJson,
      Reads (Json.value depth) (id member.2).write member.2 := by
    intro member inRecord
    obtain ⟨entry, -, rfl⟩ := List.mem_map.mp inRecord
    exact (readable depth entry.2).reads
  have reads := Json.objectOf_write Json.value depth id _ cells
  rwa [Prod.map_id, List.map_id] at reads

theorem records_reads_toJson (depth : Nat) (records : List (Record α)) :
    Reads (Json.listOf (Json.objectOf Json.value) (depth + 2))
      (Value.array ((records.map (Record.members toJson)).map Value.object)).write
      (records.map (Record.members toJson)) := by
  refine Json.listOf_write (Json.objectOf Json.value) (depth + 1) Value.object _ ?_
  intro members inRecords
  obtain ⟨record, -, rfl⟩ := List.mem_map.mp inRecords
  exact ⟨Json.opensItem_object _, record_reads_toJson toJson readable depth record⟩

theorem batches_reads_toJson (depth : Nat) (batches : Batches α) :
    Reads (Json.objectOf (Json.listOf (Json.objectOf Json.value)) (depth + 3))
      (batches.toJson toJson).write
      (batches.map (List.map (Record.members toJson))).entries := by
  have written : (batches.map (List.map (Record.members toJson))).map
      (fun items => Value.array (items.map Value.object)) =
        batches.map (fun records => .array (records.map (Record.toJson toJson))) := by
    rw [Keyed.map_map]
    simp only [Function.comp_def, List.map_map]
    rfl
  rw [Batches.toJson, ← written]
  refine Json.objectOf_write (Json.listOf (Json.objectOf Json.value)) (depth + 2) _ _ ?_
  intro batch inBatches
  obtain ⟨entry, -, rfl⟩ := List.mem_map.mp inBatches
  exact records_reads_toJson toJson readable depth entry.2

end

section
variable [Cell α] {toJson : α → Value} (encodes : Encodes toJson)
include encodes

theorem recordOfMembers_members (record : Record α) :
    Batches.recordOfMembers (record.members toJson) = record.map toJson := by
  have merged : (record.members toJson).map (fun member => (member.1, member.2.merged)) =
      record.members toJson := by
    rw [Record.members, Keyed.map, List.map_map]
    apply List.map_congr_left
    intro entry _
    exact congrArg (Prod.mk entry.1) (encodes.merged entry.2)
  rw [Batches.recordOfMembers, merged]
  exact Keyed.ofList_entries _

/-- Batches come back from their text with JSON values for cells. -/
theorem ofText_toJson (batches : Batches α) :
    Batches.ofText (batches.toJson toJson).text =
      .ok (batches.map (List.map (Keyed.map toJson))) := by
  have reads := batches_reads_toJson toJson encodes.readable 124 batches [] Json.EndsValue.nil
  rw [List.append_nil] at reads
  have whole : Json.document (Json.objectOf (Json.listOf (Json.objectOf Json.value)))
      (batches.toJson toJson).text =
        .ok (batches.map (List.map (Record.members toJson))).entries := by
    simp only [Json.document, Value.text, String.toList_ofList, Json.maxDepth, reads, bind,
      Except.bind]
    rfl
  have records : (fun records : List (Record α) =>
      (records.map (Record.members toJson)).map Batches.recordOfMembers) =
        List.map (Keyed.map toJson) := by
    funext records
    rw [List.map_map]
    exact List.map_congr_left (fun record _ => recordOfMembers_members encodes record)
  rw [Batches.ofText, whole]
  change Except.ok (Keyed.ofList ((batches.map (List.map (Record.members toJson))).map
    (List.map Batches.recordOfMembers)).entries) = _
  rw [Keyed.ofList_entries, Keyed.map_map, Function.comp_def, records]

/-! Inserting what has been read. -/

theorem row_map (record : Record α) : Record.row (record.map toJson) = record.row := by
  unfold Record.row
  rw [Keyed.values_map, List.map_map]
  simp only [Function.comp_def, encodes.text]

theorem insertBatch_map (entity : String) (records : List (Record α)) :
    insertBatch entity (records.map (Keyed.map toJson)) = insertBatch entity records := by
  cases records with
  | nil => rfl
  | cons first records =>
    have rows : ((first :: records).map (Keyed.map toJson)).map Record.row =
        (first :: records).map Record.row := by
      rw [List.map_map]
      exact List.map_congr_left (fun record _ => row_map encodes record)
    rw [insertBatch, ← rows, ← Keyed.keys_map toJson first]
    rfl

theorem sql_map (batches : Batches α) :
    Batches.sql (batches.map (List.map (Keyed.map toJson))) = batches.sql := by
  unfold Batches.sql
  rw [Keyed.map, List.mapM_map]
  simp only [Function.comp_def, Prod.map, id, insertBatch_map encodes]

theorem insertOfText_toJson (batches : Batches α) :
    insertOfText (batches.toJson toJson).text = batches.sql := by
  rw [insertOfText, ofText_toJson encodes]
  exact sql_map encodes batches

end

/-- Batches of texts, of integers and of truth values are inserted alike from their JSON text and as
they are. -/
theorem insertOfText_text :
    (∀ batches : Batches String,
      insertOfText (batches.toJson .string).text = batches.sql) ∧
    (∀ batches : Batches Int64,
      insertOfText (batches.toJson (fun cell => .integer cell.toInt)).text = batches.sql) ∧
    ∀ batches : Batches Bool,
      insertOfText (batches.toJson .boolean).text = batches.sql :=
  ⟨insertOfText_toJson encodes_string, insertOfText_toJson encodes_int64,
    insertOfText_toJson encodes_bool⟩

example :
    (Batches.toJson .boolean
      (Keyed.ofList [("Flag", [Keyed.ofList [("on", true), ("off", false)], Keyed.empty])])).text =
        "\x7b\"Flag\":[\x7b\"on\":true,\"off\":false\x7d,\x7b\x7d]\x7d" := by
  decide +kernel

end RecordSql
