import RecordSql.Proofs.Name.Inflection

/-!
The singular of words in `-es` and `-s`. Which rule is the first to apply is decided by the text
before that ending, and the rules whose own words have another ending drop out.
-/

namespace RecordSql.Name

theorem ite_test {condition other : Bool} {change rest final : Change} (same : condition = other)
    (later : rest = final) :
    (if condition then change else rest) = if other then change else final := by
  rw [same, later]

theorem ite_skip {condition : Bool} {change rest final : Change} (never : condition = false)
    (later : rest = final) : (if condition then change else rest) = final := by
  rw [never, later]
  rfl

theorem ite_take {condition : Bool} {change rest : Change} (always : condition = true) :
    (if condition then change else rest) = change := by
  rw [always]
  rfl

theorem ite_same {condition : Bool} {change rest : Change} (later : rest = change) :
    (if condition then change else rest) = change := by
  rw [later, ite_self]

/-- How a word in `-es` turns into its singular, by the text before that ending. -/
theorem singularChange_es (stem : List Char) :
    singularChange (stem ++ "es".toList) =
      if isOneOf stem ["seri", "speci"] then .keep
      else if endsInOneOf stem (sisStems.map (· ++ "s")) then .cut 2 "is"
      else if endsInOneOf stem sEndings then .cut 2 ""
      else if endsInOneOf stem ["i"] && hasConsonantBefore stem 1 then .cut 3 "y"
      else if isOneOf stem (feStems.map (· ++ "v")) then .cut 3 "fe"
      else if endsInOneOf stem ["lv", "eav"] then .cut 3 "f"
      else if isOneOf stem oWords then .cut 2 ""
      else if endsInOneOf stem ["ss", "sh", "ch", "x", "z"] then .cut 2 ""
      else if endsInOneOf stem ["us"] &&
          (beforeEnd? stem 2).any (fun c => !"aou".toList.contains c) then .cut 2 ""
      else .cut 1 "" := by
  unfold singularChange
  refine ite_test ?_ ?_
  · rw [isOneOf_append stem "es" _ ["seri", "speci"] (by decide)]
    simp
  rw [(partner?_eq_none_iff _ (irregularPlurals.map Prod.swap)).mpr
    (isOneOf_append stem "es" _ [] (by decide))]
  refine ite_skip (isOneOf_append stem "es" _ [] (by decide)) ?_
  rw [(partner?_eq_none_iff _ secondPlurals).mpr (isOneOf_append stem "es" _ [] (by decide))]
  refine ite_skip (endsInOneOf_append stem "es" _ [] (by decide) (by decide)) ?_
  refine ite_test (endsInOneOf_append stem "es" _ _ (by decide) (by decide)) ?_
  refine ite_test (endsInOneOf_append stem "es" _ _ (by decide) (by decide)) ?_
  refine ite_test ?_ ?_
  · rw [endsInOneOf_append stem "es" ["ies"] ["i"] (by decide) (by decide), hasConsonantBefore,
      hasConsonantBefore]
    exact congrArg _ (congrArg _ (beforeEnd?_append stem "es".toList 1))
  refine ite_test (isOneOf_append stem "es" _ _ (by decide)) ?_
  refine ite_test (endsInOneOf_append stem "es" _ _ (by decide) (by decide)) ?_
  refine ite_test (isOneOf_append stem "es" _ _ (by decide)) ?_
  refine ite_test (endsInOneOf_append stem "es" _ _ (by decide) (by decide)) ?_
  refine ite_test ?_ ?_
  · rw [endsInOneOf_append stem "es" ["uses"] ["us"] (by decide) (by decide)]
    exact congrArg _ (congrArg _ (beforeEnd?_append stem "es".toList 2))
  refine ite_skip (endsInOneOf_append stem "es" _ [] (by decide) (by decide)) ?_
  have plural : endsInOneOf (stem ++ "es".toList) ["s"] = true :=
    (endsInOneOf_iff _ _).mpr ⟨"s", List.mem_singleton.mpr rfl, stem ++ ['e'], by simp⟩
  rw [if_pos plural]

/-- How a word in `-s` turns into its singular, by a stem that does not end in `-e` and is not
`person`. -/
theorem singularChange_s (stem : List Char) (other : endsInOneOf stem ["e"] = false)
    (regular : isOneOf stem ["person"] = false) :
    singularChange (stem ++ "s".toList) =
      if isOneOf stem ["new"] then .keep
      else if endsInOneOf stem ["alia", "ga", "tla", "tma", "ri"] then .keep
      else if endsInOneOf stem ["s", "u", "i"] then .keep
      else .cut 1 "" := by
  unfold singularChange
  refine ite_test ?_ ?_
  · rw [isOneOf_append stem "s" _ ["new", "serie", "specie"] (by decide),
      isOneOf_without ["new", "serie", "specie"] ["new"] other (by decide)]
    simp
  rw [(partner?_eq_none_iff _ (irregularPlurals.map Prod.swap)).mpr
    ((isOneOf_append stem "s" _ ["person"] (by decide)).trans regular)]
  refine ite_skip (isOneOf_append stem "s" _ [] (by decide)) ?_
  rw [(partner?_eq_none_iff _ secondPlurals).mpr (isOneOf_append stem "s" _ [] (by decide))]
  refine ite_test (endsInOneOf_append stem "s" _ _ (by decide) (by decide)) ?_
  refine ite_skip ((endsInOneOf_append stem "s" _ (sisStems.map (· ++ "se")) (by decide)
    (by decide)).trans (endsInOneOf_without _ [] other (by decide))) ?_
  refine ite_skip ((endsInOneOf_append stem "s" _ (sEndings.map (· ++ "e")) (by decide)
    (by decide)).trans (endsInOneOf_without _ [] other (by decide))) ?_
  refine ite_skip ?_ ?_
  · rw [endsInOneOf_append stem "s" _ ["ie"] (by decide) (by decide), endsInOneOf_without _ [] other (by decide)]
    rfl
  refine ite_skip ((isOneOf_append stem "s" _ (feStems.map (· ++ "ve")) (by decide)).trans
    (isOneOf_without _ [] other (by decide))) ?_
  refine ite_skip ((endsInOneOf_append stem "s" _ ["lve", "eave"] (by decide) (by decide)).trans
    (endsInOneOf_without _ [] other (by decide))) ?_
  refine ite_skip ((isOneOf_append stem "s" _ (oWords.map (· ++ "e")) (by decide)).trans
    (isOneOf_without _ [] other (by decide))) ?_
  refine ite_skip ((endsInOneOf_append stem "s" _ ["sse", "she", "che", "xe", "ze"] (by decide)
    (by decide)).trans (endsInOneOf_without _ [] other (by decide))) ?_
  refine ite_skip ?_ ?_
  · rw [endsInOneOf_append stem "s" _ ["use"] (by decide) (by decide), endsInOneOf_without _ [] other (by decide)]
    rfl
  refine ite_test (endsInOneOf_append stem "s" _ _ (by decide) (by decide)) ?_
  have plural : endsInOneOf (stem ++ "s".toList) ["s"] = true :=
    (endsInOneOf_iff _ _).mpr ⟨"s", List.mem_singleton.mpr rfl, List.suffix_append ..⟩
  rw [if_pos plural]

end RecordSql.Name
