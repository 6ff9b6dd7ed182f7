import Mathlib.Data.List.Basic
import RecordSql.Json.Number
import RecordSql.Proofs.Json.Cursor

/-!
Integers of 64 bits read back as they were written: their digits have no leading zero, and nothing
that may follow can be taken for more of the number.
-/

namespace RecordSql.Json.Number

theorem head?_toDigits (number : Nat) (positive : 0 < number) :
    (Nat.toDigits 10 number).head? ≠ some '0' := by
  induction number using Nat.strongRecOn with
  | ind number ih =>
    rw [Nat.toDigits_eq_if (by decide)]
    split
    · next small =>
      have nonzero : ∀ digit < 10, 0 < digit → [Nat.digitChar digit].head? ≠ some '0' := by decide
      exact nonzero number small positive
    · next large =>
      rw [List.head?_append_of_ne_nil _ Nat.toDigits_ne_nil]
      exact ih (number / 10) (by omega) (by omega)

theorem isDigit_of_toDigits (number : Nat) : ∀ c ∈ Nat.toDigits 10 number, c.isDigit = true :=
  fun _ member => Nat.isDigit_of_mem_toDigits (by decide) (by decide) member

theorem not_digit {rest : List Char} (ends : EndsValue rest) :
    rest.takeWhile Char.isDigit = [] ∧ rest.dropWhile Char.isDigit = rest := by
  cases rest with
  | nil => exact ⟨rfl, rfl⟩
  | cons c rest =>
    have closing : c = ',' ∨ c = ']' ∨ c = '\x7d' := by simpa [EndsValue] using ends
    rcases closing with rfl | rfl | rfl <;> exact ⟨rfl, rfl⟩

theorem digits_toDigits (atEnd : Fault) (number : Nat) :
    Reads (digits atEnd) (Nat.toDigits 10 number) (Nat.toDigits 10 number) := by
  intro rest ends
  obtain ⟨c, tail, whole⟩ := List.exists_cons_of_ne_nil (Nat.toDigits_ne_nil (b := 10) (n := number))
  have inside := isDigit_of_toDigits number
  rw [whole, List.forall_mem_cons] at inside
  rw [whole, List.cons_append, digits, if_pos inside.1,
    List.takeWhile_append_of_pos inside.2, List.dropWhile_append_of_pos inside.2, (not_digit ends).1,
    (not_digit ends).2, List.append_nil]

theorem wholeDigits_toDigits (atEnd : Fault) (number : Nat) :
    Reads (wholeDigits atEnd) (Nat.toDigits 10 number) (Nat.toDigits 10 number) := by
  intro rest ends
  have alone : ¬((Nat.toDigits 10 number).head? = some '0' &&
      1 < (Nat.toDigits 10 number).length) = true := by
    rcases Nat.eq_zero_or_pos number with rfl | positive
    · decide
    · simp [head?_toDigits number positive]
  rw [wholeDigits, digits_toDigits atEnd number rest ends]
  exact if_neg alone

theorem fractionDigits_none (atEnd : Fault) : Reads (fractionDigits atEnd) [] none := by
  intro rest ends
  have point := ends.head_ne '.' (by decide)
  rw [List.nil_append]
  unfold fractionDigits
  split
  · simp at point
  · rfl

theorem exponentPart_none (atEnd : Fault) : Reads (exponentPart atEnd) [] none := by
  intro rest ends
  rw [List.nil_append, exponentPart, if_neg]
  simp [ends.head_ne 'e' (by decide), ends.head_ne 'E' (by decide)]

/-- The parts of a number that is written as an integer. -/
def integerParts (isNegative : Bool) (number : Nat) : Parts :=
  ⟨isNegative, Nat.toDigits 10 number, none, none⟩

theorem parts_toDigits (atEnd : Fault) (isNegative : Bool) (number : Nat) :
    Reads (parts atEnd) ((if isNegative then ['-'] else []) ++ Nat.toDigits 10 number)
      (integerParts isNegative number) := by
  intro rest ends
  have digit : (Nat.toDigits 10 number).head? ≠ some '-' := by
    intro minus
    have inside := isDigit_of_toDigits number '-' (List.mem_of_head? minus)
    contradiction
  have whole := wholeDigits_toDigits atEnd number rest ends
  have fraction := fractionDigits_none atEnd rest ends
  have exponent := exponentPart_none atEnd rest ends
  rw [List.nil_append] at fraction exponent
  cases isNegative <;>
    simp [parts, integerParts, digit, whole, fraction, exponent, bind, Except.bind]

theorem value_integerParts_false (number : Nat) (small : number < UInt64.size) :
    (integerParts false number).value = .ok (.integer number) := by
  simp only [Parts.value, integerParts, Nat.ofDigitChars_ten_toDigits, Bool.false_eq_true, if_false]
  rw [if_pos small]

theorem value_integerParts_true (number : Nat) (positive : 0 < number)
    (small : number ≤ UInt64.size / 2) :
    (integerParts true number).value = .ok (.integer (-number)) := by
  simp only [Parts.value, integerParts, Nat.ofDigitChars_ten_toDigits, if_true]
  rw [if_pos (by simp [positive, small])]

theorem read_toDigits (isNegative : Bool) (number : Nat) (value : Int)
    (meant : (integerParts isNegative number).value = .ok (.integer value)) :
    Reads read ((if isNegative then ['-'] else []) ++ Nat.toDigits 10 number) (.integer value) := by
  intro rest ends
  rw [read, parts_toDigits .endInValue isNegative number rest ends]
  simp [meant, bind, Except.bind]

theorem toList_repr (value : Int) :
    value.repr.toList =
      (if value < 0 then ['-'] else []) ++ Nat.toDigits 10 value.natAbs := by
  cases value with
  | ofNat number => exact Nat.toList_repr
  | negSucc number =>
    rw [Int.repr, String.toList_append, Nat.toList_repr, if_pos (Int.negSucc_lt_zero number)]
    rfl

/-- The text of an integer begins with its sign or with a digit. -/
theorem opens_repr (value : Int) :
    ∃ c tail, value.repr.toList = c :: tail ∧ (c = '-' ∨ c.isDigit = true) := by
  rw [toList_repr]
  split
  · exact ⟨'-', _, rfl, .inl rfl⟩
  · obtain ⟨c, tail, whole⟩ :=
      List.exists_cons_of_ne_nil (Nat.toDigits_ne_nil (b := 10) (n := value.natAbs))
    have digit := isDigit_of_toDigits value.natAbs c (by rw [whole]; exact List.mem_cons_self ..)
    exact ⟨c, tail, whole, .inr digit⟩

/-- Integers of 64 bits, with a sign or without, are read as they are written. -/
theorem read_repr (value : Int) (lower : -(UInt64.size / 2) ≤ value) (upper : value < UInt64.size) :
    Reads read value.repr.toList (.integer value) := by
  rw [toList_repr]
  by_cases negative : value < 0
  · have meant := value_integerParts_true value.natAbs (by omega) (by omega)
    rw [Int.ofNat_natAbs_of_nonpos (by omega), Int.neg_neg] at meant
    rw [if_pos negative]
    exact read_toDigits true value.natAbs value meant
  · have meant := value_integerParts_false value.natAbs (by omega)
    rw [Int.natAbs_of_nonneg (by omega)] at meant
    rw [if_neg negative]
    exact read_toDigits false value.natAbs value meant

end RecordSql.Json.Number
