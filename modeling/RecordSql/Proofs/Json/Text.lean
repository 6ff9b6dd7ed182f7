import RecordSql.Json.Text

/-!
A string reads back as it was written, whatever characters it holds: quotes and backslashes stand
behind a backslash, and so does every control character.
-/

namespace RecordSql.Json.Text

/-- A character in front of what a string goes on with. -/
def before (c : Char) : Except Fault (List Char × List Char) → Except Fault (List Char × List Char) :=
  Except.map (Prod.map (c :: ·) id)

theorem hexDigit?_digitChar (digit : Nat) (small : digit < 16) :
    hexDigit? (Nat.digitChar digit) = some digit := by
  have all : ∀ digit < 16, hexDigit? (Nat.digitChar digit) = some digit := by decide
  exact all digit small

theorem utf8Size_digitChar (digit : Nat) (small : digit < 16) :
    (Nat.digitChar digit).utf8Size = 1 := by
  have all : ∀ digit < 16, (Nat.digitChar digit).utf8Size = 1 := by decide
  exact all digit small

theorem readBody_plain (c : Char) (text : List Char) (noQuote : c ≠ '"') (noEscape : c ≠ '\\')
    (printed : ¬c.toNat < 0x20) :
    readBody .none (c :: text) = before c (readBody .none text) := by
  rw [readBody, if_neg noQuote, if_neg noEscape, if_neg printed]
  cases readBody .none text <;> rfl

theorem readBody_escaped (letter meant : Char) (text : List Char) (other : letter ≠ 'u')
    (stands : unescape? letter = some meant) :
    readBody .none ('\\' :: letter :: text) = before meant (readBody .none text) := by
  rw [readBody, if_neg (by decide), if_pos rfl, readBody, if_neg other, stands]
  cases readBody .none text <;> rfl

/-! Code units of four digits. -/

theorem readBody_digit (lead : Option Nat) (left unit digit : Nat) (text : List Char)
    (small : digit < 16) (more : 1 < left) :
    readBody (.digits lead left unit) (Nat.digitChar digit :: text) =
      readBody (.digits lead (left - 1) (16 * unit + digit)) text := by
  rw [readBody, hexDigit?_digitChar digit small]
  exact if_pos more

theorem readBody_lastDigit (unit digit : Nat) (text : List Char) (small : digit < 16)
    (unpaired : 16 * unit + digit < 0xD800) :
    readBody (.digits none 1 unit) (Nat.digitChar digit :: text) =
      before (Char.ofNat (16 * unit + digit)) (readBody .none text) := by
  have noTrail : isTrail (16 * unit + digit) = false := by
    rw [isTrail, Bool.and_eq_false_iff, decide_eq_false_iff_not]
    omega
  have noLead : isLead (16 * unit + digit) = false := by
    rw [isLead, Bool.and_eq_false_iff, decide_eq_false_iff_not]
    omega
  rw [readBody, hexDigit?_digitChar digit small]
  simp only [Nat.lt_irrefl, if_false, completeUnit, noTrail, noLead, Bool.false_eq_true]
  cases readBody .none text <;> rfl

theorem hasBytes_digitChar (count digit : Nat) (text : List Char) (small : digit < 16) :
    hasBytes (count + 1) (Nat.digitChar digit :: text) = hasBytes count text := by
  rw [hasBytes, utf8Size_digitChar digit small, Nat.add_sub_cancel]

/-- A control character that has no letter is written with two digits behind two zeros. -/
theorem readBody_control (high low : Nat) (text : List Char) (highSmall : high < 2)
    (lowSmall : low < 16) :
    readBody .none
        ('\\' :: 'u' :: '0' :: '0' :: Nat.digitChar high :: Nat.digitChar low :: text) =
      before (Char.ofNat (16 * high + low)) (readBody .none text) := by
  have zero : '0' = Nat.digitChar 0 := rfl
  have highDigit : high < 16 := by omega
  have enough : hasBytes 4
      (Nat.digitChar 0 :: Nat.digitChar 0 :: Nat.digitChar high :: Nat.digitChar low :: text) =
        true := by
    rw [hasBytes_digitChar 3 0 _ (by decide), hasBytes_digitChar 2 0 _ (by decide),
      hasBytes_digitChar 1 high _ highDigit, hasBytes_digitChar 0 low _ lowSmall, hasBytes]
  rw [zero, readBody, if_neg (by decide), if_pos rfl, readBody, if_pos rfl, if_pos enough,
    readBody_digit none 4 0 0 _ (by decide) (by decide),
    readBody_digit none 3 _ 0 _ (by decide) (by decide),
    readBody_digit none 2 _ high _ highDigit (by decide),
    readBody_lastDigit _ low text lowSmall (by omega)]
  congr 2
  omega

theorem readBody_escapeChar (c : Char) (text : List Char) :
    readBody .none (escapeChar c ++ text) = before c (readBody .none text) := by
  unfold escapeChar
  split
  · exact readBody_escaped '"' '"' text (by decide) rfl
  · exact readBody_escaped '\\' '\\' text (by decide) rfl
  · exact readBody_escaped 'b' _ text (by decide) rfl
  · exact readBody_escaped 'f' _ text (by decide) rfl
  · exact readBody_escaped 'n' _ text (by decide) rfl
  · exact readBody_escaped 'r' _ text (by decide) rfl
  · exact readBody_escaped 't' _ text (by decide) rfl
  · next noQuote noEscape _ _ _ _ _ =>
    split
    · next control =>
      have whole : 16 * (c.toNat / 16) + c.toNat % 16 = c.toNat := Nat.div_add_mod c.toNat 16
      have read := readBody_control (c.toNat / 16) (c.toNat % 16) text (by omega) (by omega)
      rw [whole, Char.ofNat_toNat] at read
      exact read
    · next printed => exact readBody_plain c text noQuote noEscape printed

theorem readBody_write (body rest : List Char) :
    readBody .none (body.flatMap escapeChar ++ '"' :: rest) = .ok (body, rest) := by
  induction body with
  | nil => rw [List.flatMap_nil, List.nil_append, readBody, if_pos rfl]
  | cons c body ih =>
    rw [List.flatMap_cons, List.append_assoc, readBody_escapeChar, ih]
    rfl

/-- A string is read from behind its opening quote, up to and with the quote that closes it. -/
theorem read_write (text : String) (rest : List Char) :
    ∃ body, write text ++ rest = '"' :: body ∧ read body = .ok (text, rest) := by
  refine ⟨text.toList.flatMap escapeChar ++ '"' :: rest, by simp [write], ?_⟩
  rw [read, readBody_write]
  simp [bind, Except.bind]

end RecordSql.Json.Text
