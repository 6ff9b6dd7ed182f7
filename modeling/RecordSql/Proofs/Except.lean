import Mathlib.Data.List.Forall2

/-!
Computations that can fail. A list is worked through up to its first failure, so a result for the
whole list is a list of results, one for each element.
-/

namespace RecordSql
variable {ε α β : Type}

theorem bind_eq_ok (first : Except ε α) (next : α → Except ε β) (result : β) :
    first >>= next = .ok result ↔ ∃ value, first = .ok value ∧ next value = .ok result := by
  cases first <;> simp [bind, Except.bind]

theorem map_eq_ok (first : Except ε α) (f : α → β) (result : β) :
    first.map f = .ok result ↔ ∃ value, first = .ok value ∧ f value = result := by
  cases first <;> simp [Except.map]

theorem bind_eq_error_iff (first : Except ε α) (next : α → Except ε β) (error : ε) :
    first >>= next = .error error ↔
      first = .error error ∨ ∃ value, first = .ok value ∧ next value = .error error := by
  cases first <;> simp [bind, Except.bind]

/-- Computations whose results look alike go on alike if the next step keeps it so. -/
theorem map_bind_congr {γ δ : Type} {look : α → γ} {view : β → δ} {left right : Except ε α}
    (same : left.map look = right.map look) (f g : α → Except ε β)
    (step : ∀ x y, look x = look y → (f x).map view = (g y).map view) :
    (left >>= f).map view = (right >>= g).map view := by
  cases left with
  | error error =>
    cases right with
    | error other => exact congrArg Except.error (Except.error.inj same)
    | ok y => contradiction
  | ok x =>
    cases right with
    | error other => contradiction
    | ok y => exact step x y (Except.ok.inj same)

theorem mapM_cons_ok (f : α → Except ε β) (head : α) (tail : List α) (value : β)
    (found : f head = .ok value) :
    (head :: tail).mapM f = (tail.mapM f).map (value :: ·) := by
  rw [List.mapM_cons, found]
  cases tail.mapM f <;> rfl

theorem map_mapM_cons {γ : Type} (f : α → Except ε β) (head : α) (tail : List α) (value : β)
    (found : f head = .ok value) (g : List β → γ) :
    ((head :: tail).mapM f).map g = (tail.mapM f).map (fun results => g (value :: results)) := by
  rw [mapM_cons_ok f head tail value found]
  cases tail.mapM f <;> rfl

/-- A list has a result exactly if its elements have one each. -/
theorem mapM_eq_ok_iff (f : α → Except ε β) (list : List α) (results : List β) :
    list.mapM f = .ok results ↔ List.Forall₂ (fun x y => f x = .ok y) list results := by
  induction list generalizing results with
  | nil =>
    cases results with
    | nil => simp [pure, Except.pure]
    | cons result results => simp [pure, Except.pure]
  | cons head tail ih =>
    cases first : f head with
    | error error =>
      rw [List.mapM_cons, first]
      refine iff_of_false nofun ?_
      intro all
      obtain _ | ⟨found, -⟩ := all
      rw [first] at found
      contradiction
    | ok value =>
      rw [mapM_cons_ok f head tail value first]
      cases results with
      | nil => cases tail.mapM f <;> simp [Except.map]
      | cons result results =>
        rw [List.forall₂_cons, ← ih results, first]
        cases tail.mapM f <;> simp [Except.map]

/-- Every result is that of an element. -/
theorem exists_of_mem_mapM (f : α → Except ε β) (list : List α) (results : List β)
    (found : list.mapM f = .ok results) (result : β) (member : result ∈ results) :
    ∃ element ∈ list, f element = .ok result := by
  rw [mapM_eq_ok_iff] at found
  induction found with
  | nil => contradiction
  | cons first rest ih =>
    rcases List.mem_cons.mp member with rfl | later
    · exact ⟨_, List.mem_cons_self .., first⟩
    · obtain ⟨element, inList, own⟩ := ih later
      exact ⟨element, List.mem_cons_of_mem _ inList, own⟩

/-- Every element has its result. -/
theorem exists_mem_of_mapM (f : α → Except ε β) (list : List α) (results : List β)
    (found : list.mapM f = .ok results) (element : α) (member : element ∈ list) :
    ∃ result ∈ results, f element = .ok result := by
  rw [mapM_eq_ok_iff] at found
  induction found with
  | nil => contradiction
  | cons first rest ih =>
    rcases List.mem_cons.mp member with rfl | later
    · exact ⟨_, List.mem_cons_self .., first⟩
    · obtain ⟨result, inResults, own⟩ := ih later
      exact ⟨result, List.mem_cons_of_mem _ inResults, own⟩

theorem mem_mapM_iff (f : α → Except ε β) (list : List α) (results : List β)
    (found : list.mapM f = .ok results) (result : β) :
    result ∈ results ↔ ∃ element ∈ list, f element = .ok result := by
  refine ⟨exists_of_mem_mapM f list results found result, ?_⟩
  rintro ⟨element, member, own⟩
  obtain ⟨other, inResults, same⟩ := exists_mem_of_mapM f list results found element member
  rw [own, Except.ok.injEq] at same
  exact same ▸ inResults

/-- What the results amount to together, if it is known what each of them amounts to. -/
theorem flatMap_of_forall₂ {γ : Type} {related : α → β → Prop} {list : List α} {results : List β}
    (all : List.Forall₂ related list results) (f : α → List γ) (g : β → List γ)
    (each : ∀ x y, related x y → g y = f x) : results.flatMap g = list.flatMap f := by
  induction all with
  | nil => rfl
  | cons first _ ih => rw [List.flatMap_cons, List.flatMap_cons, each _ _ first, ih]

/-- A list has a result if each of its elements has one, and only then. -/
theorem exists_mapM_iff (f : α → Except ε β) (list : List α) :
    (∃ results, list.mapM f = .ok results) ↔ ∀ element ∈ list, ∃ result, f element = .ok result := by
  simp only [mapM_eq_ok_iff]
  induction list with
  | nil => exact iff_of_true ⟨[], .nil⟩ (List.forall_mem_nil _)
  | cons head tail ih =>
    rw [List.forall_mem_cons, ← ih]
    constructor
    · rintro ⟨_, _ | ⟨first, rest⟩⟩
      exact ⟨⟨_, first⟩, _, rest⟩
    · rintro ⟨⟨result, first⟩, results, rest⟩
      exact ⟨result :: results, .cons first rest⟩

/-- Results can be changed one by one or all together. -/
theorem mapM_map_results {γ : Type} (f : α → Except ε β) (change : β → γ) (list : List α) :
    list.mapM (fun element => (f element).map change) = (list.mapM f).map (List.map change) := by
  induction list with
  | nil => rfl
  | cons head tail ih =>
    rw [List.mapM_cons, List.mapM_cons, ih]
    cases f head with
    | error error => rfl
    | ok value => cases tail.mapM f <;> rfl

/-- Reading a list element by element and adding what is read at once is reading the whole list and
then adding everything. -/
theorem foldlM_eq_map_mapM {σ : Type} (f : α → Except ε β) (add : σ → β → σ) (list : List α)
    (start : σ) :
    list.foldlM (fun state element => do
        let value ← f element
        .ok (add state value)) start =
      (list.mapM f).map (fun values => values.foldl add start) := by
  induction list generalizing start with
  | nil => rfl
  | cons head tail ih =>
    rw [List.foldlM_cons]
    cases found : f head with
    | error error =>
      rw [List.mapM_cons, found]
      rfl
    | ok value =>
      rw [map_mapM_cons f head tail value found]
      exact ih (add start value)

/-- The first failure is the failure of the whole list. -/
theorem mapM_eq_error (f : α → Except ε β) (before after : List α) (element : α) (error : ε)
    (fine : ∀ x ∈ before, ∃ y, f x = .ok y) (fails : f element = .error error) :
    (before ++ element :: after).mapM f = .error error := by
  induction before with
  | nil =>
    rw [List.nil_append, List.mapM_cons, fails]
    rfl
  | cons head before ih =>
    obtain ⟨value, found⟩ := fine head (List.mem_cons_self ..)
    rw [List.cons_append, mapM_cons_ok f head _ value found,
      ih (fun x member => fine x (List.mem_cons_of_mem head member))]
    rfl

end RecordSql
