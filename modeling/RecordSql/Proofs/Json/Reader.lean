import RecordSql.Json.Reader
import RecordSql.Json.Writer
import RecordSql.Proofs.Json.Cursor
import RecordSql.Proofs.Json.Text

/-!
Lists and objects are read as they are written, if their items and members are. An object is taken
member by member, and each member is read in the state that the members before it have left.
-/

namespace RecordSql.Json
variable {α σ : Type}

/-- Texts with a comma before each. -/
def afterCommas (texts : List (List Char)) : List Char := texts.flatMap (',' :: ·)

theorem endsValue_afterCommas (texts : List (List Char)) (rest : List Char) (ends : EndsValue rest) :
    EndsValue (afterCommas texts ++ rest) := by
  cases texts with
  | nil => exact ends
  | cons text texts => exact EndsValue.comma _

theorem length_le_afterCommas (texts : List (List Char)) :
    texts.length ≤ (afterCommas texts).length := by
  induction texts with
  | nil => exact Nat.zero_le _
  | cons text texts ih =>
    rw [afterCommas, List.flatMap_cons, ← afterCommas, List.length_append, List.length_cons,
      List.length_cons]
    omega

/-- A member of an object with its key. -/
def memberText (member : String × Value) : List Char :=
  Text.write member.1 ++ ':' :: member.2.write

theorem writeItems_cons (item : Value) (items : List Value) :
    writeItems (item :: items) = item.write ++ afterCommas (items.map Value.write) := by
  induction items generalizing item with
  | nil => simp [writeItems, afterCommas]
  | cons next items ih => simp [writeItems, afterCommas, ih next]

theorem writeMembers_cons (member : String × Value) (members : List (String × Value)) :
    writeMembers (member :: members) = memberText member ++ afterCommas (members.map memberText) := by
  induction members generalizing member with
  | nil => simp [writeMembers, memberText, afterCommas]
  | cons next members ih => simp [writeMembers, memberText, afterCommas, ih next]

/-! Lists. -/

/-- The text can be told from blanks and from the end of a list. -/
def OpensItem (text : List Char) : Prop :=
  ∃ c tail, text = c :: tail ∧ isBlank c = false ∧ c ≠ ']'

theorem opensItem_object (members : List (String × Value)) : OpensItem (Value.object members).write :=
  ⟨'\x7b', _, by rw [Value.write], by decide, by decide⟩

/-- The reader takes an item of a list as it is written. -/
structure ReadsItem (read : Reader α) (item : Value) (result : α) : Prop where
  opens : OpensItem item.write
  reads : Reads read item.write result

theorem nextItem_first (text rest : List Char) (opens : OpensItem text) :
    nextItem true (text ++ rest) = .ok (.item (text ++ rest)) := by
  obtain ⟨c, tail, rfl, printed, other⟩ := opens
  unfold nextItem
  rw [List.cons_append, skipBlank_cons c _ printed]
  split <;> simp_all

theorem nextItem_comma (text rest : List Char) (opens : OpensItem text) :
    nextItem false (',' :: (text ++ rest)) = .ok (.item (text ++ rest)) := by
  obtain ⟨c, tail, rfl, printed, other⟩ := opens
  have item := skipBlank_cons c (tail ++ rest) printed
  unfold nextItem
  rw [skipBlank_cons ',' _ (by decide)]
  simp only [List.cons_append, item]
  split <;> simp_all

theorem itemsFrom_item (read : Reader α) (fuel : Nat) (isFirst : Bool) (text start rest : List Char)
    (item : α) (next : nextItem isFirst text = .ok (.item start))
    (found : read start = .ok (item, rest)) :
    itemsFrom read (fuel + 1) isFirst text =
      (itemsFrom read fuel false rest).map (Prod.map (item :: ·) id) := by
  simp only [itemsFrom, next, found, bind, Except.bind]
  cases itemsFrom read fuel false rest <;> rfl

theorem itemsFrom_afterCommas (read : Reader α) (toJson : α → Value) (list : List α) (fuel : Nat)
    (rest : List Char) (each : ∀ item ∈ list, ReadsItem read (toJson item) item)
    (enough : list.length < fuel) :
    itemsFrom read fuel false
      (afterCommas ((list.map toJson).map Value.write) ++ ']' :: rest) = .ok (list, rest) := by
  obtain ⟨fuel, rfl⟩ : ∃ less, fuel = less + 1 := ⟨fuel - 1, by omega⟩
  induction list generalizing fuel with
  | nil => rfl
  | cons item list ih =>
    rw [List.length_cons] at enough
    obtain ⟨fuel, rfl⟩ : ∃ less, fuel = less + 1 := ⟨fuel - 1, by omega⟩
    have own := each item (List.mem_cons_self ..)
    have others := ih (fun other member => each other (List.mem_cons_of_mem _ member)) fuel (by omega)
    have ends := endsValue_afterCommas ((list.map toJson).map Value.write) _ (EndsValue.bracket rest)
    rw [List.map_cons, List.map_cons, afterCommas, List.flatMap_cons, ← afterCommas,
      List.append_assoc, List.cons_append, itemsFrom_item read _ false _ _ _ item
        (nextItem_comma _ _ own.opens) (own.reads _ ends), others]
    rfl

theorem items_write (read : Reader α) (toJson : α → Value) (list : List α) (rest : List Char)
    (each : ∀ item ∈ list, ReadsItem read (toJson item) item) :
    items read (writeItems (list.map toJson) ++ ']' :: rest) = .ok (list, rest) := by
  cases list with
  | nil => rfl
  | cons item list =>
    have own := each item (List.mem_cons_self ..)
    have ends := endsValue_afterCommas ((list.map toJson).map Value.write) _ (EndsValue.bracket rest)
    have enough := length_le_afterCommas ((list.map toJson).map Value.write)
    rw [List.length_map, List.length_map] at enough
    have others := itemsFrom_afterCommas read toJson list
      ((toJson item).write ++ (afterCommas ((list.map toJson).map Value.write) ++ ']' :: rest)).length
      rest (fun other member => each other (List.mem_cons_of_mem _ member))
      (by simp only [List.length_append, List.length_cons]; omega)
    rw [items, List.map_cons, writeItems_cons, List.append_assoc,
      itemsFrom_item read _ true _ _ _ item (nextItem_first _ _ own.opens) (own.reads _ ends), others]
    rfl

theorem listOf_write (read : Nat → Reader α) (depth : Nat) (toJson : α → Value) (list : List α)
    (each : ∀ item ∈ list, ReadsItem (read depth) (toJson item) item) :
    Reads (listOf read (depth + 1)) (Value.array (list.map toJson)).write list := by
  intro rest _
  have inner := items_write (read depth) toJson list rest each
  rw [Value.write, List.cons_append, List.append_assoc, List.singleton_append, listOf,
    skipBlank_cons '[' _ (by decide)]
  exact inner

/-! Objects. -/

/-- The members of an object, read one after another, take the first state to the last. -/
inductive Taken (read : σ → String → Reader σ) : List (String × Value) → σ → σ → Prop where
  | nil {state : σ} : Taken read [] state state
  | cons {key : String} {value : Value} {members : List (String × Value)} {state next final : σ}
      (first : Reads (read state key) (':' :: value.write) next)
      (others : Taken read members next final) : Taken read ((key, value) :: members) state final

theorem nextKey_first (body : List Char) : nextKey true ('"' :: body) = .ok (.item body) := rfl

theorem nextKey_comma (body : List Char) : nextKey false (',' :: '"' :: body) = .ok (.item body) :=
  rfl

theorem membersFrom_member (read : σ → String → Reader σ) (fuel : Nat) (isFirst : Bool)
    (state next : σ) (key : String) (text start middle rest : List Char)
    (opened : nextKey isFirst text = .ok (.item start)) (named : Text.read start = .ok (key, middle))
    (found : read state key middle = .ok (next, rest)) :
    membersFrom read (fuel + 1) isFirst state text = membersFrom read fuel false next rest := by
  simp only [membersFrom, opened, named, found, bind, Except.bind]

theorem membersFrom_afterCommas (read : σ → String → Reader σ) (members : List (String × Value))
    (state final : σ) (taken : Taken read members state final) (fuel : Nat) (rest : List Char)
    (enough : members.length < fuel) :
    membersFrom read fuel false state (afterCommas (members.map memberText) ++ '\x7d' :: rest) =
      .ok (final, rest) := by
  obtain ⟨fuel, rfl⟩ : ∃ less, fuel = less + 1 := ⟨fuel - 1, by omega⟩
  induction taken generalizing fuel with
  | nil => rfl
  | @cons key value members state next final first others ih =>
    rw [List.length_cons] at enough
    obtain ⟨fuel, rfl⟩ : ∃ less, fuel = less + 1 := ⟨fuel - 1, by omega⟩
    have ends := endsValue_afterCommas (members.map memberText) _ (EndsValue.brace rest)
    have own := first _ ends
    obtain ⟨body, quoted, named⟩ := Text.read_write key
      (':' :: value.write ++ (afterCommas (members.map memberText) ++ '\x7d' :: rest))
    rw [List.map_cons, afterCommas, List.flatMap_cons, ← afterCommas, memberText, List.append_assoc,
      List.cons_append, List.append_assoc, quoted,
      membersFrom_member read _ false state next key _ _ _ _ (nextKey_comma body) named own]
    exact ih fuel (by omega)

theorem members_write (read : σ → String → Reader σ) (members : List (String × Value))
    (start final : σ) (taken : Taken read members start final) (rest : List Char) :
    Json.members read start (writeMembers members ++ '\x7d' :: rest) = .ok (final, rest) := by
  cases taken with
  | nil => rfl
  | @cons key value members _ next _ first others =>
    have ends := endsValue_afterCommas (members.map memberText) _ (EndsValue.brace rest)
    have own := first _ ends
    have enough := length_le_afterCommas (members.map memberText)
    rw [List.length_map] at enough
    obtain ⟨body, quoted, named⟩ := Text.read_write key
      (':' :: value.write ++ (afterCommas (members.map memberText) ++ '\x7d' :: rest))
    rw [Json.members, writeMembers_cons, memberText, List.append_assoc, List.append_assoc,
      membersFrom_member read _ true start next key _ _ _ _ (by rw [quoted, nextKey_first]) named own]
    refine membersFrom_afterCommas read members next final others _ rest ?_
    simp only [List.length_append, List.length_cons]
    omega

theorem Reads.pushMember {read : Reader α} {text : List Char} {value : α}
    (reads : Reads read text value) (before : List (String × α)) (key : String) :
    Reads (pushMember read before key) (':' :: text) ((key, value) :: before) := by
  intro rest ends
  rw [List.cons_append, Json.pushMember, colon_cons]
  simp [reads rest ends, bind, Except.bind]

theorem taken_pushMember (read : Reader α) (toJson : α → Value) (members before : List (String × α))
    (each : ∀ member ∈ members, Reads read (toJson member.2).write member.2) :
    Taken (pushMember read) (members.map (Prod.map id toJson)) before
      (members.reverse ++ before) := by
  induction members generalizing before with
  | nil => exact .nil
  | cons member members ih =>
    obtain ⟨key, value⟩ := member
    have own := each (key, value) (List.mem_cons_self ..)
    have others := ih ((key, value) :: before)
      (fun other inside => each other (List.mem_cons_of_mem _ inside))
    rw [List.reverse_cons, List.append_assoc]
    exact .cons (own.pushMember before key) others

theorem entries_write (read : Reader α) (toJson : α → Value) (members : List (String × α))
    (rest : List Char) (each : ∀ member ∈ members, Reads read (toJson member.2).write member.2) :
    entries read (writeMembers (members.map (Prod.map id toJson)) ++ '\x7d' :: rest) =
      .ok (members, rest) := by
  have taken := members_write _ _ [] _ (taken_pushMember read toJson members [] each) rest
  rw [List.append_nil] at taken
  simp [entries, taken, bind, Except.bind]

theorem objectOf_write (read : Nat → Reader α) (depth : Nat) (toJson : α → Value)
    (members : List (String × α))
    (each : ∀ member ∈ members, Reads (read depth) (toJson member.2).write member.2) :
    Reads (objectOf read (depth + 1)) (Value.object (members.map (Prod.map id toJson))).write
      members := by
  intro rest _
  have inner := entries_write (read depth) toJson members rest each
  rw [Value.write, List.cons_append, List.append_assoc, List.singleton_append, objectOf,
    skipBlank_cons '\x7b' _ (by decide)]
  exact inner

/-! Scalars. -/

theorem string_write (text : String) : Reads string (Value.string text).write text := by
  intro rest _
  obtain ⟨body, quoted, named⟩ := Text.read_write text rest
  rw [Value.write, quoted, string, skipBlank_cons '"' _ (by decide)]
  exact named

end RecordSql.Json
