import RecordSql.Json.Cursor

/-!
Readers of values in compact text. What is proved of such a reader is that it takes exactly the
text of the value, whatever punctuation follows.
-/

namespace RecordSql.Json
variable {α : Type}

/-- What may stand behind a value: a comma, a closing bracket or nothing. -/
def EndsValue (rest : List Char) : Prop := rest.head? ∈ [none, some ',', some ']', some '\x7d']

/-- The reader takes the value off any text that begins with the text of the value. -/
def Reads (read : Reader α) (text : List Char) (value : α) : Prop :=
  ∀ rest, EndsValue rest → read (text ++ rest) = .ok (value, rest)

theorem EndsValue.nil : EndsValue [] := by simp [EndsValue]

theorem EndsValue.comma (rest : List Char) : EndsValue (',' :: rest) := by simp [EndsValue]

theorem EndsValue.bracket (rest : List Char) : EndsValue (']' :: rest) := by simp [EndsValue]

theorem EndsValue.brace (rest : List Char) : EndsValue ('\x7d' :: rest) := by simp [EndsValue]

theorem EndsValue.head_ne {rest : List Char} (ends : EndsValue rest) (c : Char)
    (other : c ∉ [',', ']', '\x7d']) : rest.head? ≠ some c := by
  intro same
  rw [EndsValue, same] at ends
  simp_all

theorem skipBlank_cons (c : Char) (text : List Char) (printed : isBlank c = false) :
    skipBlank (c :: text) = c :: text :=
  List.dropWhile_cons_of_neg (by rw [printed]; exact Bool.false_ne_true)

theorem colon_cons (text : List Char) : colon (':' :: text) = .ok text := rfl

end RecordSql.Json
