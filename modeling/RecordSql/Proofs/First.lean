import RecordSql.Proofs.Except

/-!
The first element of a list with a property. Work on a list that stops at its first failure reports
the failure of that element and of no other.
-/

namespace RecordSql
variable {ε α β : Type}

/-- The element has the property, and those before it do not have it. -/
inductive First (holds : α → Prop) : List α → α → Prop where
  | here {element : α} {rest : List α} (own : holds element) : First holds (element :: rest) element
  | later {element found : α} {rest : List α} (other : ¬holds element)
      (among : First holds rest found) : First holds (element :: rest) found

namespace First
variable {holds : α → Prop} {list : List α} {element : α}

theorem own (first : First holds list element) : holds element := by
  induction first with
  | here own => exact own
  | later _ _ ih => exact ih

theorem mem (first : First holds list element) : element ∈ list := by
  induction first with
  | here _ => exact List.mem_cons_self ..
  | later _ _ ih => exact List.mem_cons_of_mem _ ih

theorem not_nil (first : First holds [] element) : False := nomatch first

theorem cons_iff (holds : α → Prop) (head : α) (tail : List α) (element : α) :
    First holds (head :: tail) element ↔
      holds head ∧ element = head ∨ ¬holds head ∧ First holds tail element := by
  constructor
  · intro first
    cases first with
    | here own => exact Or.inl ⟨own, rfl⟩
    | later other among => exact Or.inr ⟨other, among⟩
  · rintro (⟨own, rfl⟩ | ⟨other, among⟩)
    · exact here own
    · exact later other among

theorem exists_iff (holds : α → Prop) (list : List α) :
    (∃ element, First holds list element) ↔ ∃ element ∈ list, holds element := by
  constructor
  · rintro ⟨element, first⟩
    exact ⟨element, first.mem, first.own⟩
  · rintro ⟨element, member, own⟩
    induction list with
    | nil => contradiction
    | cons head tail ih =>
      by_cases early : holds head
      · exact ⟨head, here early⟩
      · have inTail : element ∈ tail :=
          (List.mem_cons.mp member).resolve_left (fun same => early (same ▸ own))
        obtain ⟨found, first⟩ := ih inTail
        exact ⟨found, later early first⟩

end First

/-- A list fails with the failure of its first element that has one. -/
theorem mapM_eq_error_iff (f : α → Except ε β) (list : List α) (error : ε) :
    list.mapM f = .error error ↔
      ∃ element, First (fun x => ∃ failure, f x = .error failure) list element ∧
        f element = .error error := by
  induction list with
  | nil => exact iff_of_false nofun (fun ⟨_, first, _⟩ => first.not_nil)
  | cons head tail ih =>
    cases found : f head with
    | error failure =>
      have whole : (head :: tail).mapM f = .error failure :=
        mapM_eq_error f [] tail head failure (List.forall_mem_nil _) found
      simp [First.cons_iff, whole, found]
    | ok value =>
      have whole : (head :: tail).mapM f = .error error ↔ tail.mapM f = .error error := by
        rw [mapM_cons_ok f head tail value found]
        cases tail.mapM f <;> simp [Except.map]
      rw [whole, ih]
      simp [First.cons_iff, found]

/-- The same of steps in turn, if it does not depend on what was done before whether a step fails. -/
theorem foldlM_eq_error_iff (step : β → α → Except ε β) (fails : α → ε → Prop)
    (independent : ∀ state x error, step state x = .error error ↔ fails x error) (start : β)
    (list : List α) (error : ε) :
    list.foldlM step start = .error error ↔
      ∃ element, First (fun x => ∃ failure, fails x failure) list element ∧ fails element error := by
  induction list generalizing start with
  | nil => exact iff_of_false nofun (fun ⟨_, first, _⟩ => first.not_nil)
  | cons head tail ih =>
    have own := independent start head
    rw [List.foldlM_cons]
    cases found : step start head with
    | error failure =>
      have whole : (Except.error failure >>= fun next => tail.foldlM step next) =
        (.error failure : Except ε β) := rfl
      simp [First.cons_iff, whole, ← own, found]
    | ok next =>
      have whole : (Except.ok next >>= fun next => tail.foldlM step next) =
        (tail.foldlM step next : Except ε β) := rfl
      simp [First.cons_iff, whole, ← own, found, ih next]

end RecordSql
