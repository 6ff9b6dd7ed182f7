import RecordSql.Proofs.Json.Number
import RecordSql.Proofs.Json.Reader

/-!
Values without floats read back as they are written, if their integers have 64 bits and no more
lists and objects stand inside each other than the reader allows.
-/

namespace RecordSql.Json

/-- A value that a reader at some depth reads as it is written. -/
inductive Readable : Nat → Value → Prop where
  | null (depth : Nat) : Readable depth .null
  | boolean (depth : Nat) (value : Bool) : Readable depth (.boolean value)
  | integer (depth : Nat) (value : Int) (lower : -(UInt64.size / 2) ≤ value)
      (upper : value < UInt64.size) : Readable depth (.integer value)
  | string (depth : Nat) (text : String) : Readable depth (.string text)
  | array (depth : Nat) (items : List Value) (each : ∀ item ∈ items, Readable depth item) :
      Readable (depth + 1) (.array items)
  | object (depth : Nat) (members : List (String × Value))
      (each : ∀ member ∈ members, Readable depth member.2) : Readable (depth + 1) (.object members)

/-- The text begins with something other than blanks and brackets. -/
def OpensScalar (text : List Char) : Prop :=
  ∃ c tail, text = c :: tail ∧ isBlank c = false ∧ c ∉ ['[', ']', '\x7b']

theorem OpensScalar.item {text : List Char} (opens : OpensScalar text) : OpensItem text := by
  obtain ⟨c, tail, whole, printed, other⟩ := opens
  exact ⟨c, tail, whole, printed, by simp_all⟩

/-- At every depth, a scalar is read by the reader of scalars. -/
theorem Reads.scalar {text : List Char} {content : Value} (reads : Reads scalar text content)
    (opens : OpensScalar text) (depth : Nat) : Reads (value depth) text content := by
  intro rest ends
  have own := reads rest ends
  obtain ⟨c, tail, rfl, printed, other⟩ := opens
  have whole := skipBlank_cons c (tail ++ rest) printed
  cases depth <;> unfold value <;> rw [List.cons_append, whole] <;> split <;> simp_all

theorem scalar_null : Reads scalar Value.null.write .null := by
  intro rest _
  simp [Value.write, scalar, expectWord, bind, Except.bind]

theorem scalar_boolean (value : Bool) : Reads scalar (Value.boolean value).write (.boolean value) := by
  intro rest _
  cases value <;> simp [Value.write, scalar, expectWord, bind, Except.bind]

theorem scalar_string (text : String) : Reads scalar (Value.string text).write (.string text) := by
  intro rest _
  obtain ⟨body, quoted, named⟩ := Text.read_write text rest
  rw [Value.write, quoted]
  simp [scalar, named, bind, Except.bind]

theorem notMem_of_opens {c : Char} (first : c = '-' ∨ c.isDigit = true) (others : List Char)
    (apart : others.any (fun other => other == '-' || other.isDigit) = false) : c ∉ others := by
  intro member
  rw [List.any_eq_false] at apart
  exact apart c member (by simpa using first)

theorem opensScalar_integer (value : Int) : OpensScalar (Value.integer value).write := by
  obtain ⟨c, tail, whole, first⟩ := Number.opens_repr value
  have blanks := notMem_of_opens first [' ', '\n', '\t', '\r'] (by decide)
  have brackets := notMem_of_opens first ['[', ']', '\x7b'] (by decide)
  exact ⟨c, tail, by rw [Value.write, whole], by simp_all [isBlank], brackets⟩

theorem scalar_integer (value : Int) (lower : -(UInt64.size / 2) ≤ value)
    (upper : value < UInt64.size) : Reads scalar (Value.integer value).write (.integer value) := by
  intro rest ends
  have own := Number.read_repr value lower upper rest ends
  obtain ⟨c, tail, whole, first⟩ := Number.opens_repr value
  have letters := notMem_of_opens first ['n', 't', 'f', '"'] (by decide)
  rw [whole, List.cons_append] at own
  rw [Value.write, whole, List.cons_append, scalar, if_neg (by simp_all), if_neg (by simp_all),
    if_neg (by simp_all), if_neg (by simp_all), if_pos (by simpa using first), own]

theorem Readable.opens {depth : Nat} {content : Value} (readable : Readable depth content) :
    OpensItem content.write := by
  cases readable with
  | null => exact ⟨'n', _, rfl, by decide, by decide⟩
  | boolean _ value => cases value <;> exact ⟨_, _, rfl, by decide, by decide⟩
  | integer _ value => exact (opensScalar_integer value).item
  | string _ text => exact ⟨'"', _, by rw [Value.write, Text.write], by decide, by decide⟩
  | array _ items => exact ⟨'[', _, by rw [Value.write], by decide, by decide⟩
  | object _ members => exact opensItem_object members

/-- A readable value is read as it is written. -/
theorem Readable.reads {depth : Nat} {content : Value} (readable : Readable depth content) :
    Reads (value depth) content.write content := by
  induction readable with
  | null depth => exact scalar_null.scalar ⟨'n', _, rfl, by decide, by decide⟩ depth
  | boolean depth value =>
    refine (scalar_boolean value).scalar ?_ depth
    cases value <;> exact ⟨_, _, rfl, by decide, by decide⟩
  | integer depth value lower upper =>
    exact (scalar_integer value lower upper).scalar (opensScalar_integer value) depth
  | string depth text =>
    exact (scalar_string text).scalar
      ⟨'"', _, by rw [Value.write, Text.write], by decide, by decide⟩ depth
  | array depth list each ih =>
    intro rest _
    have inner := items_write (value depth) id list rest
      (fun item member => ⟨(each item member).opens, ih item member⟩)
    rw [List.map_id] at inner
    rw [Value.write, List.cons_append, List.append_assoc, List.singleton_append, value,
      skipBlank_cons '[' _ (by decide)]
    simp [inner, bind, Except.bind]
  | object depth list each ih =>
    intro rest _
    have inner := entries_write (value depth) id list rest ih
    rw [Prod.map_id, List.map_id] at inner
    rw [Value.write, List.cons_append, List.append_assoc, List.singleton_append, value,
      skipBlank_cons '\x7b' _ (by decide)]
    simp [inner, bind, Except.bind]

end RecordSql.Json
