import RecordSql.Proofs.TextReader

/-!
Texts that tell their values apart. A value and the text after it are determined by the two of them
together, as long as the text after it is of a kind that cannot be taken for part of the value.
-/

namespace RecordSql
variable {α : Type}

/-- Of the texts of valid values, no two begin one text in different ways. -/
def TellsApart (valid : α → Prop) (text : α → List Char) (follows : List Char → Prop) : Prop :=
  ∀ one other rest another, valid one → valid other → follows rest → follows another →
    text one ++ rest = text other ++ another → one = other ∧ rest = another

namespace TellsApart

/-- What a reader undoes is told apart. -/
theorem of_undoes (reader : TextReader α) (valid : α → Prop) (text : α → List Char)
    (follows : List Char → Prop)
    (undoes : ∀ value rest, valid value → follows rest →
      reader (text value ++ rest) = some (value, rest)) : TellsApart valid text follows := by
  intro one other rest another oneValid otherValid restFollows anotherFollows same
  have first := undoes one rest oneValid restFollows
  rw [same, undoes other another otherValid anotherFollows] at first
  have pairs := Prod.mk.inj (Option.some.inj first)
  exact ⟨pairs.1.symm, pairs.2.symm⟩

/-- Words of certain characters are told apart before any other character. -/
theorem word (inWord : Char → Bool) :
    TellsApart (fun word => word.all inWord = true) id
      (fun rest => rest.head?.all (fun c => !inWord c) = true) := by
  have ends : ∀ word rest : List Char, word.all inWord = true →
      rest.head?.all (fun c => !inWord c) = true → (word ++ rest).takeWhile inWord = word := by
    intro word rest inside stops
    have none : rest.takeWhile inWord = [] := by
      cases rest with
      | nil => rfl
      | cons c rest =>
        have outside : inWord c = false := by simpa using stops
        rw [List.takeWhile_cons_of_neg (by rw [outside]; exact Bool.false_ne_true)]
    rw [List.takeWhile_append_of_pos (List.all_eq_true.mp inside), none, List.append_nil]
  intro one other rest another oneInside otherInside restStops anotherStops same
  have words : one = other := by
    rw [← ends one rest oneInside restStops, ← ends other another otherInside anotherStops]
    exact congrArg _ same
  subst words
  exact ⟨rfl, List.append_cancel_left same⟩

/-! Lists of values. -/

/-- The text after the first value of a list. -/
def afterFirst (separator : List Char) (text : α → List Char) : List α → List Char → List Char
  | [], rest => rest
  | next :: others, rest => separator ++ (text next ++ afterFirst separator text others rest)

theorem intercalate_afterFirst (separator : List Char) (text : α → List Char) (first : α)
    (others : List α) (rest : List Char) :
    separator.intercalate ((first :: others).map text) ++ rest =
      text first ++ afterFirst separator text others rest := by
  induction others generalizing first with
  | nil => rw [List.map_singleton, List.intercalate_singleton, afterFirst]
  | cons next others ih =>
    rw [afterFirst, ← ih next]
    simp only [List.map_cons, List.intercalate_cons_cons, List.append_assoc]

section
variable {valid : α → Prop} {text : α → List Char} {follows closes : List Char → Prop}
  (separator : List Char) (one : TellsApart valid text follows)
  (separated : ∀ value rest, valid value → follows (separator ++ (text value ++ rest)))
  (closed : ∀ rest, closes rest → follows rest)
  (goesOn : ∀ value rest another, valid value → closes another →
    separator ++ (text value ++ rest) ≠ another)
include separated closed

theorem follows_afterFirst (others : List α) (rest : List Char)
    (valids : ∀ value ∈ others, valid value) (ends : closes rest) :
    follows (afterFirst separator text others rest) := by
  cases others with
  | nil => exact closed rest ends
  | cons next others => exact separated next _ (valids next (List.mem_cons_self ..))

include one goesOn

theorem afterFirst_cancel (left right : List α) (rest another : List Char)
    (leftValid : ∀ value ∈ left, valid value) (rightValid : ∀ value ∈ right, valid value)
    (restCloses : closes rest) (anotherCloses : closes another)
    (same : afterFirst separator text left rest = afterFirst separator text right another) :
    left = right ∧ rest = another := by
  induction left generalizing right with
  | nil =>
    cases right with
    | nil => exact ⟨rfl, same⟩
    | cons next others =>
      exact absurd same.symm (goesOn next _ rest (rightValid next (List.mem_cons_self ..)) restCloses)
  | cons first others ih =>
    have firstValid := leftValid first (List.mem_cons_self ..)
    have othersValid : ∀ value ∈ others, valid value :=
      fun value member => leftValid value (List.mem_cons_of_mem first member)
    cases right with
    | nil => exact absurd same (goesOn first _ another firstValid anotherCloses)
    | cons second more =>
      have moreValid : ∀ value ∈ more, valid value :=
        fun value member => rightValid value (List.mem_cons_of_mem second member)
      obtain ⟨rfl, tails⟩ := one first second _ _ firstValid
        (rightValid second (List.mem_cons_self ..))
        (follows_afterFirst separator separated closed others rest othersValid restCloses)
        (follows_afterFirst separator separated closed more another moreValid anotherCloses)
        (List.append_cancel_left same)
      obtain ⟨rfl, rests⟩ := ih more othersValid moreValid tails
      exact ⟨rfl, rests⟩

/-- Lists with a separator between their values are told apart, if what comes after a list cannot be
taken for its first value or for one more. -/
theorem intercalate
    (begins : ∀ value rest another, valid value → closes another → text value ++ rest ≠ another) :
    TellsApart (fun list : List α => ∀ value ∈ list, valid value)
      (fun list => separator.intercalate (list.map text)) closes := by
  intro left right rest another leftValid rightValid restCloses anotherCloses same
  cases left with
  | nil =>
    cases right with
    | nil => exact ⟨rfl, same⟩
    | cons next others =>
      rw [intercalate_afterFirst] at same
      exact absurd same.symm (begins next _ rest (rightValid next (List.mem_cons_self ..)) restCloses)
  | cons first others =>
    have firstValid := leftValid first (List.mem_cons_self ..)
    have othersValid : ∀ value ∈ others, valid value :=
      fun value member => leftValid value (List.mem_cons_of_mem first member)
    cases right with
    | nil =>
      rw [intercalate_afterFirst] at same
      exact absurd same (begins first _ another firstValid anotherCloses)
    | cons second more =>
      have moreValid : ∀ value ∈ more, valid value :=
        fun value member => rightValid value (List.mem_cons_of_mem second member)
      rw [intercalate_afterFirst, intercalate_afterFirst] at same
      obtain ⟨rfl, tails⟩ := one first second _ _ firstValid
        (rightValid second (List.mem_cons_self ..))
        (follows_afterFirst separator separated closed others rest othersValid restCloses)
        (follows_afterFirst separator separated closed more another moreValid anotherCloses) same
      obtain ⟨rfl, rests⟩ := afterFirst_cancel separator one separated closed goesOn others more rest
        another othersValid moreValid restCloses anotherCloses tails
      exact ⟨rfl, rests⟩

end

/-- Lists of values without a separator. -/
theorem flatMap {valid : α → Prop} {text : α → List Char} {follows closes : List Char → Prop}
    (one : TellsApart valid text follows)
    (separated : ∀ value rest, valid value → follows (text value ++ rest))
    (closed : ∀ rest, closes rest → follows rest)
    (begins : ∀ value rest another, valid value → closes another → text value ++ rest ≠ another) :
    TellsApart (fun list : List α => ∀ value ∈ list, valid value)
      (fun list => list.flatMap text) closes := by
  have joined : ∀ list : List α, ([] : List Char).intercalate (list.map text) = list.flatMap text := by
    intro list
    induction list with
    | nil => rfl
    | cons first others ih =>
      cases others with
      | nil => simp
      | cons next others =>
        rw [List.map_cons, List.map_cons, List.intercalate_cons_cons, List.append_nil,
          ← List.map_cons, ih]
        simp only [List.flatMap_cons]
  have whole := intercalate [] one separated closed begins begins
  simpa only [joined] using whole

end TellsApart

end RecordSql
