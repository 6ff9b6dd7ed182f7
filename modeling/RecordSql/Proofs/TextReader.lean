import Mathlib.Data.List.Basic

/-!
Readers of texts. A reader takes a value off the front of a text and leaves the rest. What is
proved of a reader is that it undoes a way of writing values, whatever text of some kind follows.
-/

namespace RecordSql

/-- Takes a value off the front of a text. -/
abbrev TextReader (α : Type) := List Char → Option (α × List Char)

namespace TextReader
variable {α : Type}

/-- The text after an expected one. -/
def past (expected text : List Char) : Option (List Char) :=
  if expected.isPrefixOf text then some (text.drop expected.length) else none

theorem past_append (expected rest : List Char) : past expected (expected ++ rest) = some rest := by
  simp [past]

theorem past_eq_none (expected text : List Char) (c : Char) (first : expected.head? = some c)
    (other : text.head? ≠ some c) : past expected text = none := by
  obtain ⟨tail, rfl⟩ : ∃ tail, expected = c :: tail := List.head?_eq_some_iff.mp first
  cases text with
  | nil => rfl
  | cons d text =>
    have apart : (c == d) = false := by
      rw [beq_eq_false_iff_ne]
      intro same
      subst same
      exact other rfl
    simp [past, List.isPrefixOf, apart]

/-- The text up to a character, and the text after it. -/
def upTo (stop : Char) : TextReader (List Char)
  | [] => none
  | c :: text => if c = stop then some ([], text) else (upTo stop text).map (Prod.map (c :: ·) id)

theorem upTo_append (stop : Char) (front rest : List Char) (absent : stop ∉ front) :
    upTo stop (front ++ stop :: rest) = some (front, rest) := by
  induction front with
  | nil => simp [upTo]
  | cons c front ih =>
    rw [List.mem_cons, not_or] at absent
    rw [List.cons_append, upTo, if_neg (fun same => absent.1 same.symm), ih absent.2]
    rfl

/-- At least one item, with a separator between items and a closing text after the last. At most
`count` items are read. -/
def items (item : TextReader α) (separator closing : List Char) : Nat → TextReader (List α)
  | 0, _ => none
  | count + 1, text => do
      let (first, rest) ← item text
      match past separator rest with
      | some rest =>
          let (others, rest) ← items item separator closing count rest
          some (first :: others, rest)
      | none => (past closing rest).map (fun rest => ([first], rest))

/-- Items up to a closing text, none of them if the text begins with it. -/
def closed (item : TextReader α) (separator closing : List Char) : TextReader (List α) := fun text =>
  match past closing text with
  | some rest => some ([], rest)
  | none => items item separator closing (text.length + 1) text

/-- The reader finds every one of the values in the text that is written for it, if one of the
texts that may follow comes next. -/
def Undoes (reader : TextReader α) (text : α → List Char) (follows : List Char → Prop)
    (values : List α) : Prop :=
  ∀ value ∈ values, ∀ rest, follows rest → reader (text value ++ rest) = some (value, rest)

theorem items_intercalate (item : TextReader α) (separator closing : List Char)
    (text : α → List Char) (follows : List Char → Prop) (first : α) (others : List α) (count : Nat)
    (rest : List Char) (undoes : Undoes item text follows (first :: others))
    (enough : others.length < count) (beforeSeparator : ∀ rest, follows (separator ++ rest))
    (beforeClosing : follows (closing ++ rest)) (other : past separator (closing ++ rest) = none) :
    items item separator closing count
      (separator.intercalate ((first :: others).map text) ++ (closing ++ rest)) =
        some (first :: others, rest) := by
  induction others generalizing first count with
  | nil =>
    obtain ⟨count, rfl⟩ : ∃ less, count = less + 1 := ⟨count - 1, by omega⟩
    have head := undoes first (List.mem_cons_self ..) _ beforeClosing
    simp only [List.map_cons, List.map_nil, List.intercalate_singleton, items, head,
      Option.bind_eq_bind, Option.bind_some, other, past_append, Option.map_some]
  | cons second others ih =>
    obtain ⟨count, rfl⟩ : ∃ less, count = less + 1 := ⟨count - 1, by omega⟩
    have tail := ih second count (fun value member => undoes value (List.mem_cons_of_mem _ member))
      (by rw [List.length_cons] at enough; omega)
    have head := undoes first (List.mem_cons_self ..)
      (separator ++ (separator.intercalate ((second :: others).map text) ++ (closing ++ rest)))
      (beforeSeparator _)
    simp only [List.map_cons, List.intercalate_cons_cons, List.append_assoc] at head tail ⊢
    simp only [items, head, Option.bind_eq_bind, Option.bind_some, past_append, tail]

theorem length_le_intercalate (separator : List Char) (words : List (List Char))
    (nonempty : separator ≠ []) : words.length ≤ (separator.intercalate words).length + 1 := by
  have positive := List.length_pos_of_ne_nil nonempty
  induction words with
  | nil => exact Nat.zero_le _
  | cons word words ih =>
    cases words with
    | nil => simp
    | cons next words =>
      rw [List.intercalate_cons_cons, List.length_append, List.length_append, List.length_cons]
      omega

/-- The separator and the closing text are told apart by their first characters, and no item begins
like the closing text. -/
theorem closed_intercalate (item : TextReader α) (separator closing : List Char) (split close : Char)
    (text : α → List Char) (follows : List Char → Prop) (values : List α) (rest : List Char)
    (undoes : Undoes item text follows values)
    (splits : separator.head? = some split) (closes : closing.head? = some close)
    (apart : close ≠ split) (starts : ∀ value ∈ values, ∃ c tail, text value = c :: tail ∧ c ≠ close)
    (beforeSeparator : ∀ rest, follows (separator ++ rest))
    (beforeClosing : follows (closing ++ rest)) :
    closed item separator closing
      (separator.intercalate (values.map text) ++ (closing ++ rest)) = some (values, rest) := by
  have closingHead : (closing ++ rest).head? = some close := by
    rw [List.head?_append, closes]
    rfl
  cases values with
  | nil => simp only [List.map_nil, List.intercalate_nil, List.nil_append, closed, past_append]
  | cons first others =>
    have nonempty : separator ≠ [] := by
      intro same
      subst same
      contradiction
    have other : past separator (closing ++ rest) = none :=
      past_eq_none _ _ split splits (by rw [closingHead]; exact fun same => apart (Option.some.inj same))
    have enough := length_le_intercalate separator ((first :: others).map text) nonempty
    rw [List.length_map, List.length_cons] at enough
    have notClosed : past closing
        (separator.intercalate ((first :: others).map text) ++ (closing ++ rest)) = none := by
      obtain ⟨c, tail, same, different⟩ := starts first (List.mem_cons_self ..)
      apply past_eq_none _ _ close closes
      cases others <;> simp [same, different]
    rw [closed, notClosed]
    exact items_intercalate item separator closing text follows first others _ rest undoes
      (by rw [List.length_append]; omega) beforeSeparator beforeClosing other

end TextReader

end RecordSql
