import Mathlib.Data.List.Basic
import Mathlib.Data.List.Induction
import RecordSql.Keyed

/-!
What a list of entries amounts to when they are inserted in turn: every key stands where it came
first, with the value that came for it last.
-/

namespace RecordSql
variable {α β γ : Type}

theorem upsert_fresh (key : String) (value : α) (entries : List (String × α))
    (fresh : key ∉ entries.map Prod.fst) :
    upsert key value entries = entries ++ [(key, value)] := by
  induction entries with
  | nil => rfl
  | cons entry entries ih =>
    rw [List.map_cons, List.mem_cons, not_or] at fresh
    rw [upsert, if_neg (fun same => fresh.1 same.symm), ih fresh.2, List.cons_append]

theorem upsert_present (key : String) (value : α) (entries : List (String × α))
    (nodup : (entries.map Prod.fst).Nodup) (present : key ∈ entries.map Prod.fst) :
    upsert key value entries =
      entries.map (fun entry => if entry.1 = key then (key, value) else entry) := by
  induction entries with
  | nil => contradiction
  | cons entry entries ih =>
    rw [List.map_cons, List.nodup_cons] at nodup
    rw [upsert, List.map_cons]
    split
    · next same =>
      -- The key stands here and nowhere else.
      have others : ∀ other ∈ entries,
          (if other.1 = key then (key, value) else other) = other := by
        intro other member
        apply if_neg
        intro again
        exact nodup.1 (same.trans again.symm ▸ List.mem_map_of_mem member)
      rw [List.map_congr_left others, List.map_id']
    · next other =>
      rw [List.map_cons, List.mem_cons] at present
      rw [ih nodup.2 (present.resolve_left (fun same => other same.symm))]

namespace Keyed

theorem eq_of_entries {left right : Keyed α} (same : left.entries = right.entries) :
    left = right := by
  cases left
  cases right
  cases same
  rfl

theorem keys_insert (keyed : Keyed α) (key : String) (value : α) :
    (keyed.insert key value).keys =
      if key ∈ keyed.keys then keyed.keys else keyed.keys ++ [key] :=
  upsert_keys key value keyed.entries

theorem get?_insert (keyed : Keyed α) (key other : String) (value : α) :
    (keyed.insert key value).get? other = if key = other then some value else keyed.get? other := by
  have found (entries : List (String × α)) :
      (upsert key value entries).find? (fun entry => entry.1 = other) =
        if key = other then some (key, value) else entries.find? (fun entry => entry.1 = other) := by
    induction entries with
    | nil => by_cases wanted : key = other <;> simp [upsert, wanted]
    | cons entry entries ih =>
      unfold upsert
      split
      · next same => by_cases wanted : key = other <;> simp [same, wanted]
      · next different =>
        by_cases wanted : entry.1 = other
        · have apart : key ≠ other := fun same => different (wanted.trans same.symm)
          simp [wanted, apart]
        · simp [wanted, ih]
  unfold get? insert
  rw [found]
  split <;> rfl

theorem get?_of_mem (keyed : Keyed α) (entry : String × α) (member : entry ∈ keyed.entries) :
    keyed.get? entry.1 = some entry.2 := by
  obtain ⟨entries, nodup⟩ := keyed
  unfold get?
  induction entries with
  | nil => contradiction
  | cons first entries ih =>
    rw [List.map_cons, List.nodup_cons] at nodup
    rcases List.mem_cons.mp member with rfl | later
    · simp
    · have other : first.1 ≠ entry.1 := fun same => nodup.1 (same ▸ List.mem_map_of_mem later)
      simpa [other] using ih nodup.2 later

/-- The entries are the keys with the values found under them. -/
theorem entries_eq_filterMap (keyed : Keyed α) :
    keyed.entries = keyed.keys.filterMap (fun key => (keyed.get? key).map (key, ·)) := by
  symm
  calc
    keyed.keys.filterMap (fun key => (keyed.get? key).map (key, ·)) =
        keyed.entries.filterMap (fun entry => (keyed.get? entry.1).map (entry.1, ·)) :=
      List.filterMap_map
    _ = keyed.entries.filterMap some := by
      apply List.filterMap_congr
      intro entry member
      rw [get?_of_mem keyed entry member]
      rfl
    _ = keyed.entries := List.filterMap_some

theorem ofList_append (entries : List (String × α)) (entry : String × α) :
    ofList (entries ++ [entry]) = (ofList entries).insert entry.1 entry.2 := by
  unfold ofList
  rw [List.foldl_append, List.foldl_cons, List.foldl_nil]

theorem keys_ofList (entries : List (String × α)) :
    (ofList entries).keys = (entries.map Prod.fst).eraseDups := by
  induction entries using List.reverseRecOn with
  | nil => rfl
  | append_singleton entries entry ih =>
    rw [ofList_append, keys_insert, ih, List.map_append, List.eraseDups_append]
    by_cases present : entry.1 ∈ entries.map Prod.fst <;>
      simp [List.removeAll, present, List.eraseDups_cons]

theorem get?_ofList (entries : List (String × α)) (key : String) :
    (ofList entries).get? key =
      (entries.reverse.find? (fun entry => entry.1 = key)).map Prod.snd := by
  induction entries using List.reverseRecOn with
  | nil => rfl
  | append_singleton entries entry ih =>
    rw [ofList_append, get?_insert, ih, List.reverse_append, List.reverse_singleton,
      List.singleton_append, List.find?_cons]
    by_cases same : entry.1 = key <;> simp [same]

theorem ofList_of_nodup (entries : List (String × α)) (nodup : (entries.map Prod.fst).Nodup) :
    (ofList entries).entries = entries := by
  induction entries using List.reverseRecOn with
  | nil => rfl
  | append_singleton entries entry ih =>
    rw [List.map_append, List.nodup_append] at nodup
    have fresh : entry.1 ∉ entries.map Prod.fst := fun member =>
      nodup.2.2 entry.1 member entry.1 (List.mem_singleton.mpr rfl) rfl
    rw [ofList_append, entries_insert, ih nodup.1, upsert_fresh _ _ _ fresh]

theorem ofList_entries (keyed : Keyed α) : ofList keyed.entries = keyed :=
  eq_of_entries (ofList_of_nodup keyed.entries keyed.nodup)

/-- Changes every value under its key. -/
def map (change : α → β) (keyed : Keyed α) : Keyed β where
  entries := keyed.entries.map (Prod.map id change)
  nodup := by
    rw [List.map_map]
    exact keyed.nodup

theorem keys_map (change : α → β) (keyed : Keyed α) : (keyed.map change).keys = keyed.keys :=
  List.map_map

theorem values_map (change : α → β) (keyed : Keyed α) :
    (keyed.map change).values = keyed.values.map change := by
  unfold values map
  rw [List.map_map, List.map_map]
  rfl

theorem map_insert (change : α → β) (keyed : Keyed α) (key : String) (value : α) :
    (keyed.insert key value).map change = (keyed.map change).insert key (change value) := by
  have entries (entries : List (String × α)) :
      (upsert key value entries).map (Prod.map id change) =
        upsert key (change value) (entries.map (Prod.map id change)) := by
    induction entries with
    | nil => rfl
    | cons entry entries ih =>
      rw [upsert, List.map_cons, upsert, Prod.map_fst, id_eq]
      split
      · rfl
      · rw [List.map_cons, ih]
  exact eq_of_entries (entries keyed.entries)

theorem map_map (first : α → β) (second : β → γ) (keyed : Keyed α) :
    (keyed.map first).map second = keyed.map (second ∘ first) :=
  eq_of_entries List.map_map

end Keyed

end RecordSql
