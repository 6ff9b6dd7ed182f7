import RecordSql.Json.Record
import RecordSql.Proofs.Json.Reader

/-!
Records in the form of objects. A record reads as it is written if each of its members finds its
field, and finds it empty.
-/

namespace RecordSql.Json
variable {α β σ : Type}

/-- A member puts its value where its field keeps it. -/
theorem Shape.member_reads (shape : Shape σ α) (key : String) (isRequired : Bool)
    (get : σ → Option β) (set : β → σ → σ) (read : Reader β) (state : σ) (text : List Char)
    (value : β)
    (found : shape.fields.find? (fun field => field.key = key) =
      some (.of key isRequired get set read))
    (absent : get state = none) (reads : Reads read text value) :
    Reads (shape.member state key) (':' :: text) (set value state) := by
  intro rest ends
  rw [Shape.member, found]
  simp [Field.of, absent, colon_cons, reads rest ends, bind, Except.bind]

theorem Taken.field {shape : Shape σ α} {key : String} {isRequired : Bool} {get : σ → Option β}
    {set : β → σ → σ} {read : Reader β} {content : Value} {value : β}
    {members : List (String × Value)} {state final : σ}
    (found : shape.fields.find? (fun field => field.key = key) =
      some (.of key isRequired get set read))
    (absent : get state = none) (reads : Reads read content.write value)
    (others : Taken shape.member members (set value state) final) :
    Taken shape.member ((key, content) :: members) state final :=
  .cons (shape.member_reads key isRequired get set read state _ value found absent reads) others

theorem record_reads (shape : Nat → Shape σ α) (depth : Nat) (members : List (String × Value))
    (final : σ) (result : α) (taken : Taken (shape depth).member members (shape depth).start final)
    (complete : (shape depth).finish final = .ok result) :
    Reads (record shape (depth + 1)) (Value.object members).write result := by
  intro rest _
  have inner := members_write _ members _ final taken rest
  rw [Value.write, List.cons_append, List.append_assoc, List.singleton_append, record,
    skipBlank_cons '\x7b' _ (by decide)]
  simp [enter, inner, complete, bind, Except.bind]

/-- A text that holds one value as it is written is a document. -/
theorem document_write (read : Nat → Reader α) (content : Value) (result : α)
    (reads : Reads (read maxDepth) content.write result) :
    document read content.text = .ok result := by
  have whole := reads [] EndsValue.nil
  rw [List.append_nil] at whole
  simp [document, Value.text, whole, skipBlank, bind, Except.bind]

end RecordSql.Json
