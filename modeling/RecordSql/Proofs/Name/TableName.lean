import RecordSql.Insert.Batch
import RecordSql.Name.TableName
import RecordSql.Proofs.Name.Inflection
import RecordSql.Proofs.Name.SnakeCase
import RecordSql.Proofs.Table.Specification

/-!
Names of tables stay in snake case, so records are inserted under the name that their table was
created with.
-/

namespace RecordSql.Name
open Unicode

theorem isMark_of_isLower (c : Char) (letter : c.isLower = true) : isMark c = false :=
  isMark_ascii c (ascii_of_isLower c letter)

theorem isSnake_of_isLower (text : List Char) (letters : text.all Char.isLower = true) :
    IsSnake text := by
  rw [List.all_eq_true] at letters
  refine ⟨fun c member => isLowered_of_isLower c (letters c member), ?_⟩
  apply separatorsHeld_of_mem
  intro c member
  have letter := letters c member
  constructor <;> rintro rfl <;> exact absurd letter (by decide)

theorem head?_isMark_of_isLower (text : List Char) (letters : text.all Char.isLower = true) :
    text.head?.any isMark = false := by
  cases text with
  | nil => rfl
  | cons c text =>
    rw [List.all_cons, Bool.and_eq_true] at letters
    exact isMark_of_isLower c letters.1

/-- Changing the last word of a name keeps the name in snake case. -/
theorem isSnake_apply {change : Change} (head : List Char) {word : List Char} (fits : change.Fits word)
    (snake : IsSnake (head ++ word)) (start : head = [] ∨ ∃ front, head = front ++ ['_']) :
    IsSnake (head ++ change.apply word) := by
  have written := isSnake_of_isLower change.written fits.1
  rcases fits.apply_cases with same | same | ⟨stem, matched, whole, letters, same⟩
  · rw [same]
    exact snake
  · rw [same]
    rcases start with rfl | ⟨front, rfl⟩
    · exact written
    · rw [List.append_assoc] at snake
      have before : IsSnake front := snake.front (isMark_ascii '_' (by decide))
      have underscore : IsSnake ['_'] := ⟨List.forall_mem_singleton.mpr (by decide), by decide⟩
      exact (before.append underscore).append written
  · rw [same, ← List.append_assoc]
    rw [whole, ← List.append_assoc] at snake
    exact (snake.front (head?_isMark_of_isLower matched letters)).append written

theorem isSnake_pluralText (text : List Char) (snake : IsSnake text) : IsSnake (pluralText text) := by
  have whole := splitLastWord_append text
  have start := (splitLastWord_cases text).2
  have lowered : ∀ part : List Char, (∀ c ∈ part, c ∈ text) → lowerText part = part :=
    fun part inside => lowerText_lowered part (fun c member => snake.lowered c (inside c member))
  simp only [pluralText, inflectLast]
  split
  · rw [pluralWord, lowered text (fun c member => member)]
    exact isSnake_apply [] (pluralChange_fits text) snake (Or.inl rfl)
  · rw [pluralWord, lowered (splitLastWord text).2
      (fun c member => whole ▸ List.mem_append_right _ member)]
    exact isSnake_apply _ (pluralChange_fits _) (whole.symm ▸ snake) start

theorem toList_tableName (typeName : String) :
    (tableName typeName).toList = pluralText (snakeText typeName.toList) := by
  simp [tableName, pluralize, snakeCase]

/-- Snake case changes neither a name in snake case nor the name of a table, and the records of a
type are inserted under the name of its table. -/
theorem insertBatch_tableName {α : Type} [Cell α] :
    (∀ name, snakeCase (snakeCase name) = snakeCase name) ∧
    (∀ typeName, snakeCase (tableName typeName) = tableName typeName) ∧
    ∀ (definition : TypeDefinition) (useDefaultModel : Bool) (spec : TableSpec)
      (first : Record α) (records : List (Record α)),
      definition.table useDefaultModel = .ok spec →
      insertBatch (tableName definition.name) (first :: records) =
        .ok ("INSERT INTO " ++ spec.name ++ " (" ++ ", ".intercalate first.keys ++ ") VALUES " ++
          ",\n".intercalate ((first :: records).map Record.row) ++ ";") := by
  have inSnakeCase : ∀ typeName, snakeCase (tableName typeName) = tableName typeName := by
    intro typeName
    have snake := isSnake_pluralText _ (isSnake_snakeText typeName.toList)
    rw [snakeCase, toList_tableName, snakeText_of_isSnake _ snake, ← toList_tableName,
      String.ofList_toList]
  refine ⟨?_, inSnakeCase, ?_⟩
  · intro name
    simp only [snakeCase, String.toList_ofList, snakeText_snakeText]
  · intro definition useDefaultModel spec first records assembled
    rw [insertBatch, inSnakeCase, table_name assembled]

theorem insertBatch_tableName_blogPost :
    ∃ spec, TypeDefinition.table
        { kind := .object, name := "BlogPost", fields := [{ name := "title", type := .named "String" }] }
        true = .ok spec ∧
      insertBatch (tableName "BlogPost") [Keyed.ofList [("title", "It's")]] =
        .ok ("INSERT INTO " ++ spec.name ++ " (" ++
          ", ".intercalate (Keyed.ofList [("title", "It's")]).keys ++ ") VALUES " ++
          ",\n".intercalate [Record.row (Keyed.ofList [("title", "It's")])] ++ ";") :=
  ⟨_, rfl, insertBatch_tableName.2.2
    { kind := .object, name := "BlogPost", fields := [{ name := "title", type := .named "String" }] }
    true _ (Keyed.ofList [("title", "It's")]) [] rfl⟩

end RecordSql.Name
