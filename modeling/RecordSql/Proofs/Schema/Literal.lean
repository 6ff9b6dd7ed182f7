import RecordSql.Proofs.Table.Column
import RecordSql.Schema.Literal

/-!
Literals as operands of a default. A string stands between quotes, and every other literal is a word
that begins neither like a string nor like a default of the model.
-/

namespace RecordSql

/-- A character of a literal other than a string. -/
def isScalarChar (c : Char) : Bool := c.isDigit || "-.NaNinfTRUEFALSE".toList.contains c

theorem isScalarChar_of_isDigit (c : Char) (digit : c.isDigit = true) : isScalarChar c = true := by
  rw [isScalarChar, digit, Bool.true_or]

theorem isBare_of_isScalarChar (c : Char) (scalar : isScalarChar c = true) : isBare c = true := by
  have space : isScalarChar ' ' = false := by decide
  have line : isScalarChar '\n' = false := by decide
  simp only [isBare, Bool.and_eq_true, bne_iff_ne]
  constructor
  · intro same
    subst same
    rw [space] at scalar
    contradiction
  · intro same
    subst same
    rw [line] at scalar
    contradiction

theorem ne_of_isScalarChar (c other : Char) (scalar : isScalarChar c = true)
    (outside : isScalarChar other = false) : c ≠ other := by
  intro same
  subst same
  rw [scalar] at outside
  contradiction

/-! Numbers. -/

namespace Decimal

theorem toDigits_scalar (number : Nat) : (Nat.toDigits 10 number).all isScalarChar = true := by
  rw [List.all_eq_true]
  intro c member
  exact isScalarChar_of_isDigit c (Nat.isDigit_of_mem_toDigits (by decide) (by decide) member)

theorem positionalText_scalar (showsFraction : Bool) (digits : List Char) (point : Int)
    (scalar : digits.all isScalarChar = true) :
    (positionalText showsFraction digits point).all isScalarChar = true := by
  have zero : isScalarChar '0' = true := by decide
  have dot : isScalarChar '.' = true := by decide
  rw [List.all_eq_true] at scalar ⊢
  intro c member
  have repeated : ∀ count, c ∈ List.replicate count '0' → isScalarChar c = true :=
    fun count found => (List.eq_of_mem_replicate found) ▸ zero
  unfold positionalText at member
  split at member
  · simp only [List.mem_cons, List.mem_append] at member
    rcases member with rfl | rfl | inZeros | inDigits
    · exact zero
    · exact dot
    · exact repeated _ inZeros
    · exact scalar c inDigits
  split at member
  · simp only [List.mem_append] at member
    rcases member with (inDigits | inZeros) | inFraction
    · exact scalar c inDigits
    · exact repeated _ inZeros
    · split at inFraction
      · rcases List.mem_pair.mp inFraction with rfl | rfl
        · exact dot
        · exact zero
      · contradiction
  · simp only [List.mem_cons, List.mem_append] at member
    rcases member with inFront | rfl | inBack
    · exact scalar c (List.mem_of_mem_take inFront)
    · exact dot
    · exact scalar c (List.mem_of_mem_drop inBack)

theorem positionalText_ne_nil (showsFraction : Bool) (digits : List Char) (point : Int)
    (some : digits ≠ []) : positionalText showsFraction digits point ≠ [] := by
  unfold positionalText
  split
  · exact List.cons_ne_nil _ _
  split
  · exact List.append_ne_nil_of_left_ne_nil (List.append_ne_nil_of_left_ne_nil some _) _
  · exact List.append_ne_nil_of_right_ne_nil _ (List.cons_ne_nil _ _)

theorem magnitudeText_plain (decimal : Scaled) :
    plain.magnitudeText decimal ≠ [] ∧ (plain.magnitudeText decimal).all isScalarChar = true :=
  ⟨positionalText_ne_nil _ _ _ Nat.toDigits_ne_nil,
    positionalText_scalar _ _ _ (toDigits_scalar decimal.digits)⟩

theorem text_plain (number : Binary64) :
    plain.text number ≠ [] ∧ (plain.text number).all isScalarChar = true := by
  have sign : (if number.isNegative then ['-'] else []).all isScalarChar = true := by
    split <;> decide
  unfold Layout.text
  simp only
  split
  · decide
  · rw [List.all_append, sign]
    exact ⟨List.append_ne_nil_of_right_ne_nil _ (by decide), by decide⟩
  · obtain ⟨some, scalar⟩ := magnitudeText_plain (shortest plain.tie _ _)
    rw [List.all_append, sign, scalar]
    exact ⟨List.append_ne_nil_of_right_ne_nil _ some, rfl⟩

end Decimal

theorem repr_scalar (value : Int) :
    value.repr.toList ≠ [] ∧ value.repr.toList.all isScalarChar = true := by
  have natural : ∀ number : Nat, number.repr.toList ≠ [] ∧
      number.repr.toList.all isScalarChar = true := by
    intro number
    rw [Nat.toList_repr]
    exact ⟨Nat.toDigits_ne_nil, Decimal.toDigits_scalar number⟩
  cases value with
  | ofNat number => exact natural number
  | negSucc number =>
    have minus : "-".toList.all isScalarChar = true := by decide
    have negative : (Int.negSucc number).repr = "-" ++ (number + 1).repr := rfl
    obtain ⟨some, scalar⟩ := natural (number + 1)
    rw [negative, String.toList_append, List.all_append, minus, scalar]
    exact ⟨List.append_ne_nil_of_right_ne_nil _ some, rfl⟩

/-! Operands. -/

theorem isDeclared_of_scalar (text : String) (some : text.toList ≠ [])
    (scalar : text.toList.all isScalarChar = true) : IsDeclaredClause ("DEFAULT " ++ text) := by
  obtain ⟨c, word, whole⟩ := List.exists_cons_of_ne_nil some
  rw [whole] at scalar
  have first := List.all_eq_true.mp scalar c (List.mem_cons_self ..)
  have inside : (c :: word).all isBare = true := by
    rw [List.all_eq_true] at scalar ⊢
    exact fun d member => isBare_of_isScalarChar d (scalar d member)
  have apart (other : Char) (outside : isScalarChar other = false) : c ≠ other :=
    ne_of_isScalarChar c other first outside
  have operand : IsOperand text.toList :=
    whole ▸ .bare c word inside ⟨apart '"' (by decide), apart '(' (by decide)⟩
  refine Or.inr ⟨text, operand, ?_, ?_, rfl⟩
  · rw [whole]
    exact fun same => apart '(' (by decide) (Option.some.inj same)
  · rw [whole]
    exact fun same => apart 'C' (by decide) (Option.some.inj same)

theorem isDeclared_default (value : Literal) : IsDeclaredClause ("DEFAULT " ++ value.sql) := by
  cases value with
  | boolean value =>
    cases value with
    | true => exact isDeclared_of_scalar "TRUE" (by decide) (by decide)
    | false => exact isDeclared_of_scalar "FALSE" (by decide) (by decide)
  | int value =>
    obtain ⟨some, scalar⟩ := repr_scalar value.toInt
    exact isDeclared_of_scalar _ some scalar
  | float value =>
    have text : (Decimal.plainText value).toList = Decimal.plain.text value := String.toList_ofList
    obtain ⟨some, scalar⟩ := Decimal.text_plain value
    exact isDeclared_of_scalar _ (text ▸ some) (text ▸ scalar)
  | string value =>
    have first : (Sql.quoted '"' value).toList.head? = some '"' := by
      rw [Sql.toList_quoted, List.head?_cons]
    refine Or.inr ⟨_, .quoted value, ?_, ?_, rfl⟩
    · rw [first]
      decide
    · rw [first]
      decide

/-! Strings between quotes. -/

/-- The reader for which two quotes stand for one takes an escaped text and one quote after it, and
nothing else. No quote of the text ends its literal, whatever comes behind the text, so the literal
tells which text it holds. -/
theorem closes_at_own_quote :
    (∀ (quote : Char) (text : String) (input rest : List Char),
      Sql.readBody quote input = some (text.toList, rest) ↔
        input = (Sql.escape quote text).toList ++ quote :: rest ∧ rest.head? ≠ some quote) ∧
    (∀ (quote : Char) (text : String) (tail : List Char),
      Sql.readBody quote ((Sql.escape quote text).toList ++ tail) =
        (Sql.readBody quote tail).map (Prod.map (text.toList ++ ·) id)) ∧
    (∀ quote, Function.Injective (Sql.quoted quote)) ∧
    Function.Injective (fun text => (Literal.string text).sql) := by
  have escaped (quote : Char) (text : String) :
      (Sql.escape quote text).toList = Sql.doubled quote text.toList := String.toList_ofList
  refine ⟨?_, ?_, Sql.quoted_injective, Sql.quoted_injective '"'⟩
  · intro quote text input rest
    rw [escaped]
    exact Sql.readBody_eq_some_iff quote input text.toList rest
  · intro quote text tail
    rw [escaped]
    exact Sql.readBody_append quote text.toList tail

/-- A text that ends in a quote, and what stands behind it in a column. -/
example : Sql.readBody '"' "6\"\"\" NOT NULL".toList = some ("6\"".toList, " NOT NULL".toList) := by
  decide +kernel

end RecordSql
