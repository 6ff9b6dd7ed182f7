/-!
Entries under distinct keys, in the order in which the keys first came. A later value for a key
takes the place of the earlier one.
-/

namespace RecordSql

/-- Puts a value under a key: in place of the value there, or at the end. -/
def upsert {α : Type} (key : String) (value : α) : List (String × α) → List (String × α)
  | [] => [(key, value)]
  | entry :: entries =>
      if entry.1 = key then (key, value) :: entries else entry :: upsert key value entries

theorem upsert_keys {α : Type} (key : String) (value : α) (entries : List (String × α)) :
    (upsert key value entries).map Prod.fst =
      if key ∈ entries.map Prod.fst then entries.map Prod.fst
      else entries.map Prod.fst ++ [key] := by
  induction entries with
  | nil => simp [upsert]
  | cons entry entries ih =>
      by_cases same : entry.1 = key
      · simp [upsert, same]
      · have other : ¬key = entry.1 := fun h => same h.symm
        simp only [upsert, if_neg same, List.map_cons, ih, List.mem_cons, other, false_or]
        split <;> simp

theorem upsert_nodup {α : Type} (key : String) (value : α) (entries : List (String × α))
    (nodup : (entries.map Prod.fst).Nodup) : ((upsert key value entries).map Prod.fst).Nodup := by
  rw [upsert_keys]
  split
  · exact nodup
  · rename_i fresh
    rw [List.nodup_append]
    refine ⟨nodup, by simp, ?_⟩
    intro left leftMem right rightMem same
    simp only [List.mem_singleton] at rightMem
    exact fresh (rightMem ▸ same ▸ leftMem)

/-- A list of entries without a repeated key. -/
structure Keyed (α : Type) where
  entries : List (String × α)
  nodup : (entries.map Prod.fst).Nodup

namespace Keyed

def empty {α : Type} : Keyed α := ⟨[], by simp⟩

def insert {α : Type} (keyed : Keyed α) (key : String) (value : α) : Keyed α :=
  ⟨upsert key value keyed.entries, upsert_nodup key value keyed.entries keyed.nodup⟩

def get? {α : Type} (keyed : Keyed α) (key : String) : Option α :=
  (keyed.entries.find? (fun entry => entry.1 = key)).map Prod.snd

def keys {α : Type} (keyed : Keyed α) : List String := keyed.entries.map Prod.fst

def values {α : Type} (keyed : Keyed α) : List α := keyed.entries.map Prod.snd

/-- Inserts entries in turn. -/
def ofList {α : Type} (entries : List (String × α)) : Keyed α :=
  entries.foldl (fun keyed entry => keyed.insert entry.1 entry.2) empty

@[simp] theorem entries_empty {α : Type} : (empty : Keyed α).entries = [] := rfl

@[simp] theorem entries_insert {α : Type} (keyed : Keyed α) (key : String) (value : α) :
    (keyed.insert key value).entries = upsert key value keyed.entries := rfl

end Keyed

end RecordSql
