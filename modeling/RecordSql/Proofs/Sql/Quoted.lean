import RecordSql.Proofs.TextReader
import RecordSql.Sql.Quoted

/-!
A quoted literal ends where it should: the quote that closes it is the first one that is not
doubled, whatever the text between the quotes.
-/

namespace RecordSql.Sql

/-- The text of a literal from behind its first quote. A doubled quote stands for one. -/
def readBody (quote : Char) : TextReader (List Char)
  | [] => none
  | c :: text =>
      if c = quote then
        match text with
        | [] => some ([], [])
        | d :: rest =>
            if d = quote then (readBody quote rest).map (Prod.map (quote :: ·) id)
            else some ([], d :: rest)
      else (readBody quote text).map (Prod.map (c :: ·) id)

/-- The text of a quoted literal. -/
def readQuoted (quote : Char) : TextReader String := fun text =>
  match text with
  | [] => none
  | c :: text => if c = quote then (readBody quote text).map (Prod.map String.ofList id) else none

theorem readBody_other (quote c : Char) (text : List Char) (other : c ≠ quote) :
    readBody quote (c :: text) = (readBody quote text).map (Prod.map (c :: ·) id) := by
  cases text <;> simp only [readBody, if_neg other]

theorem doubled_quote (quote : Char) (text : List Char) :
    doubled quote (quote :: text) = quote :: quote :: doubled quote text := by
  rw [doubled, List.flatMap_cons, if_pos rfl]
  rfl

theorem doubled_other (quote c : Char) (text : List Char) (other : c ≠ quote) :
    doubled quote (c :: text) = c :: doubled quote text := by
  rw [doubled, List.flatMap_cons, if_neg other]
  rfl

/-- No quote in a doubled text ends the literal, whatever comes after the text. -/
theorem readBody_append (quote : Char) (text tail : List Char) :
    readBody quote (doubled quote text ++ tail) =
      (readBody quote tail).map (Prod.map (text ++ ·) id) := by
  induction text with
  | nil =>
    rw [doubled, List.flatMap_nil, List.nil_append]
    cases readBody quote tail <;> rfl
  | cons c text ih =>
    have step : readBody quote (doubled quote (c :: text) ++ tail) =
        (readBody quote (doubled quote text ++ tail)).map (Prod.map (c :: ·) id) := by
      by_cases same : c = quote
      · rw [same, doubled_quote]
        simp only [List.cons_append, readBody, if_true]
      · rw [doubled_other quote c text same]
        exact readBody_other quote c _ same
    rw [step, ih, Option.map_map]
    rfl

theorem readBody_quote (quote : Char) (rest : List Char) (other : rest.head? ≠ some quote) :
    readBody quote (quote :: rest) = some ([], rest) := by
  cases rest with
  | nil => simp only [readBody, if_true]
  | cons d rest =>
    have different : d ≠ quote := fun same => other (congrArg some same)
    simp only [readBody, if_true, if_neg different]

theorem readBody_doubled (quote : Char) (text rest : List Char) (other : rest.head? ≠ some quote) :
    readBody quote (doubled quote text ++ quote :: rest) = some (text, rest) := by
  rw [readBody_append, readBody_quote quote rest other, Option.map_some, Prod.map, List.append_nil]
  rfl

theorem eq_of_readBody {quote : Char} {input text rest : List Char}
    (found : readBody quote input = some (text, rest)) :
    input = doubled quote text ++ quote :: rest ∧ rest.head? ≠ some quote := by
  fun_induction readBody quote input generalizing text with
  | case1 => contradiction
  | case2 =>
    cases found
    exact ⟨rfl, nofun⟩
  | case3 later ih =>
    obtain ⟨⟨body, _⟩, inside, same⟩ := Option.map_eq_some_iff.mp found
    cases same
    obtain ⟨whole, other⟩ := ih inside
    exact ⟨by rw [whole, doubled_quote]; rfl, other⟩
  | case4 d later different =>
    cases found
    exact ⟨rfl, fun same => different (Option.some.inj same)⟩
  | case5 c later different ih =>
    obtain ⟨⟨body, _⟩, inside, same⟩ := Option.map_eq_some_iff.mp found
    cases same
    obtain ⟨whole, other⟩ := ih inside
    exact ⟨by rw [whole, doubled_other quote c body different]; rfl, other⟩

/-- The reader takes a doubled text and the quote after it, and nothing else. -/
theorem readBody_eq_some_iff (quote : Char) (input text rest : List Char) :
    readBody quote input = some (text, rest) ↔
      input = doubled quote text ++ quote :: rest ∧ rest.head? ≠ some quote := by
  constructor
  · exact eq_of_readBody
  · rintro ⟨rfl, other⟩
    exact readBody_doubled quote text rest other

theorem toList_quoted (quote : Char) (text : String) :
    (quoted quote text).toList = quote :: (doubled quote text.toList ++ [quote]) := by
  rw [quoted, String.toList_ofList]

theorem readQuoted_quoted (quote : Char) (text : String) (rest : List Char)
    (other : rest.head? ≠ some quote) :
    readQuoted quote ((quoted quote text).toList ++ rest) = some (text, rest) := by
  simp only [toList_quoted, List.cons_append, List.append_assoc, List.nil_append,
    readQuoted, if_true, readBody_doubled quote text.toList rest other, Option.map_some, Prod.map,
    String.ofList_toList, id]

theorem quoted_injective (quote : Char) : Function.Injective (quoted quote) := by
  intro first second same
  have read (text : String) : readQuoted quote (quoted quote text).toList = some (text, []) := by
    rw [← List.append_nil (quoted quote text).toList]
    exact readQuoted_quoted quote text [] nofun
  have both := read first
  rw [same, read second] at both
  exact (congrArg Prod.fst (Option.some.inj both)).symm

end RecordSql.Sql
