import RecordSql.Proofs.Name.Singular

/-!
Which words come back from their plural. A plural in `-s` is read by the first rule for singulars
that finds its ending there; the words that are read wrongly can be told by their own ending.
-/

namespace RecordSql.Name

/-- Words that do not come back from their plural. -/
def misreadWords : List String :=
  ["us", "new", "serie", "specie", "sery", "specy"] ++ feStems.map (· ++ "ve") ++
    oWords.map (· ++ "e")

/-- Endings of words that do not come back from their plural. -/
def misreadEndings : List String :=
  ["cris", "aus", "ous", "uus"] ++ ["alia", "ga", "tla", "tma", "u", "i"] ++
    (["lve", "eave", "sse", "she", "che", "xe", "ze"] ++ sisStems.map (· ++ "se") ++
      sEndings.map (· ++ "e"))

/-- Whether the plural of a singular word is read as the plural of another word. In `-ie` and `-use`
the character before the ending decides, and words in `-is` come back only with a stem of their own
or in `-ris`. -/
def isMisread (word : List Char) : Bool :=
  isOneOf word misreadWords || endsInOneOf word misreadEndings ||
    (endsInOneOf word ["ie"] && hasConsonantBefore word 2) ||
    (endsInOneOf word ["use"] && (beforeEnd? word 3).any (fun c => !"aou".toList.contains c)) ||
    (endsInOneOf word ["is"] && word != "is".toList &&
      !endsInOneOf word (["ris"] ++ sisStems.map (· ++ "sis")))

/-- The plural that a change makes of a word comes back to it, unless the word is misread. -/
def Restored (word : List Char) (change : Change) : Prop :=
  (singularChange (change.apply word)).apply (change.apply word) = word ↔ isMisread word = false

instance (word : List Char) (change : Change) : Decidable (Restored word change) :=
  inferInstanceAs (Decidable (_ ↔ _))

theorem Restored.ite {condition : Bool} {first rest : Change} {word : List Char}
    (ifTrue : condition = true → Restored word first)
    (ifFalse : condition = false → Restored word rest) :
    Restored word (if condition then first else rest) := by
  cases condition with
  | true => exact ifTrue rfl
  | false => exact ifFalse rfl

theorem isMisread_eq_false {word : List Char} (words : isOneOf word misreadWords = false)
    (endings : endsInOneOf word misreadEndings = false) (ie : endsInOneOf word ["ie"] = false)
    (use : endsInOneOf word ["use"] = false) (is : endsInOneOf word ["is"] = false) :
    isMisread word = false := by
  rw [isMisread, words, endings, ie, use, is]
  rfl

theorem isMisread_s {word : List Char} (ends : endsInOneOf word ["s"] = true) :
    isMisread word = (isOneOf word misreadWords || endsInOneOf word misreadEndings ||
      (endsInOneOf word ["is"] && word != "is".toList &&
        !endsInOneOf word (["ris"] ++ sisStems.map (· ++ "sis")))) := by
  rw [isMisread, endsInOneOf_apart ["ie"] ends (by decide),
    endsInOneOf_apart ["use"] ends (by decide), Bool.false_and, Bool.false_and, Bool.or_false,
    Bool.or_false]

/-- A rule that leads elsewhere must not apply. -/
theorem apply_ite_iff {condition : Bool} {first rest : Change} {text word : List Char}
    (wrong : condition = true → first.apply text ≠ word) :
    (if condition then first else rest).apply text = word ↔
      condition = false ∧ rest.apply text = word := by
  cases condition with
  | true => simpa using wrong rfl
  | false => simp

theorem apply_cut_ne {stem singular : List Char} {bytes : Nat} {ending plural : String}
    (matched : String) (atEnd : matched.toList <:+ stem)
    (count : byteLength (matched ++ plural).toList = bytes)
    (other : ending.toList ≠ matched.toList ++ singular) :
    (Change.cut bytes ending).apply (stem ++ plural.toList) ≠ stem ++ singular := by
  obtain ⟨front, rfl⟩ := atEnd
  rw [List.append_assoc, List.append_assoc, ← String.toList_append, ← count, apply_cut]
  exact fun same => other (List.append_cancel_left same)

theorem apply_e (word : List Char) :
    (Change.cut 1 "").apply (word ++ "es".toList) = word ++ "e".toList := by
  have whole := apply_cut (word ++ "e".toList) "s".toList ""
  rw [List.append_assoc, String.toList_empty, List.append_nil] at whole
  exact whole

theorem apply_es (word : List Char) : (Change.cut 2 "").apply (word ++ "es".toList) = word := by
  have whole := apply_cut word "es".toList ""
  rw [String.toList_empty, List.append_nil] at whole
  exact whole

theorem apply_is (word : List Char) :
    (Change.cut 2 "is").apply (word ++ "es".toList) = word ++ "is".toList :=
  apply_cut word "es".toList "is"

/-- Of the rules for words in `-es`, only the last one leads to a word in `-e`, and only the one for
`-ses` to a word in `-is`. -/
theorem apply_es_iff (stem singular : List Char) (some : "".toList ≠ singular)
    (other : "es".toList ≠ singular)
    (sis : endsInOneOf stem (sisStems.map (· ++ "s")) = true → "is".toList ≠ singular) :
    (singularChange (stem ++ "es".toList)).apply (stem ++ "es".toList) = stem ++ singular ↔
      isOneOf stem ["seri", "speci"] = false ∧
      endsInOneOf stem (sisStems.map (· ++ "s")) = false ∧
      endsInOneOf stem sEndings = false ∧
      (endsInOneOf stem ["i"] && hasConsonantBefore stem 1) = false ∧
      isOneOf stem (feStems.map (· ++ "v")) = false ∧
      endsInOneOf stem ["lv", "eav"] = false ∧
      isOneOf stem oWords = false ∧
      endsInOneOf stem ["ss", "sh", "ch", "x", "z"] = false ∧
      (endsInOneOf stem ["us"] &&
        (beforeEnd? stem 2).any (fun c => !"aou".toList.contains c)) = false ∧
      "e".toList = singular := by
  have apart {bytes : Nat} {ending : String} (count : byteLength "es".toList = bytes)
      (different : ending.toList ≠ singular) :
      (Change.cut bytes ending).apply (stem ++ "es".toList) ≠ stem ++ singular :=
    apply_cut_ne "" List.nil_suffix count different
  have y : "y".toList ≠ "i".toList ++ singular := by simp
  have fe : "fe".toList ≠ "v".toList ++ singular := by simp
  have f : "f".toList ≠ "v".toList ++ singular := by simp
  rw [singularChange_es, apply_ite_iff (fun _ same => other (List.append_cancel_left same)),
    apply_ite_iff (fun test => apart (by decide) (sis test)),
    apply_ite_iff (fun _ => apart (by decide) some),
    apply_ite_iff (fun test => apply_cut_ne "i"
      (suffix_of_endsInOneOf (Bool.and_eq_true_iff.mp test).1 (by decide)) (by decide) y),
    apply_ite_iff (fun test => apply_cut_ne "v" (of_isOneOf ("v".toList <:+ ·) test (by decide))
      (by decide) fe),
    apply_ite_iff (fun test => apply_cut_ne "v" (suffix_of_endsInOneOf test (by decide))
      (by decide) f),
    apply_ite_iff (fun _ => apart (by decide) some),
    apply_ite_iff (fun _ => apart (by decide) some),
    apply_ite_iff (fun _ => apart (by decide) some), apply_e, List.append_right_inj]

/-- Words in `-e` take a plain `-s`, and come back unless a rule for `-es` takes hold. -/
theorem restored_e (stem : List Char) : Restored (stem ++ "e".toList) (.cut 0 "s") := by
  have plural : (Change.cut 0 "s").apply (stem ++ "e".toList) = stem ++ "es".toList := by
    rw [apply_cut_zero, List.append_assoc]
    rfl
  have words : isOneOf (stem ++ "e".toList) misreadWords =
      isOneOf stem (["seri", "speci"] ++ (feStems.map (· ++ "v") ++ oWords)) :=
    isOneOf_append stem "e" _ _ (by decide)
  have endings : endsInOneOf (stem ++ "e".toList) misreadEndings =
      endsInOneOf stem (["lv", "eav"] ++ (["ss", "sh", "ch", "x", "z"] ++
        (sisStems.map (· ++ "s") ++ sEndings))) :=
    endsInOneOf_append stem "e" _ _ (by decide) (by decide)
  have ie : endsInOneOf (stem ++ "e".toList) ["ie"] = endsInOneOf stem ["i"] :=
    endsInOneOf_append stem "e" _ _ (by decide) (by decide)
  have use : endsInOneOf (stem ++ "e".toList) ["use"] = endsInOneOf stem ["us"] :=
    endsInOneOf_append stem "e" _ _ (by decide) (by decide)
  have is : endsInOneOf (stem ++ "e".toList) ["is"] = false :=
    endsInOneOf_append stem "e" _ [] (by decide) (by decide)
  have consonant : hasConsonantBefore (stem ++ "e".toList) 2 = hasConsonantBefore stem 1 :=
    congrArg _ (beforeEnd?_append stem "e".toList 1)
  have beforeUse : beforeEnd? (stem ++ "e".toList) 3 = beforeEnd? stem 2 :=
    beforeEnd?_append stem "e".toList 2
  rw [Restored, plural, apply_es_iff stem "e".toList (by decide) (by decide) (fun _ => by decide),
    isMisread, words, endings, ie, use, is, consonant, beforeUse]
  simp only [isOneOf_append_list, endsInOneOf_append_list, Bool.or_eq_false_iff, Bool.false_and,
    and_true]
  tauto

/-- Other words that take a plain `-s`. -/
theorem restored_s (stem : List Char) (plain : endsInOneOf stem ["e", "s"] = false)
    (regular : isOneOf stem ["person"] = false) (other : isOneOf stem ["sery", "specy"] = false) :
    Restored stem (.cut 0 "s") := by
  have noE : endsInOneOf stem ["e"] = false := endsInOneOf_without _ [] plain (by decide)
  have words : isOneOf stem misreadWords = isOneOf stem ["new"] := by
    have known : isOneOf stem misreadWords = isOneOf stem (["new"] ++ ["sery", "specy"]) :=
      isOneOf_without _ _ plain (by decide)
    rw [known, isOneOf_append_list, other, Bool.or_false]
  have endings : endsInOneOf stem misreadEndings =
      endsInOneOf stem (["alia", "ga", "tla", "tma"] ++ ["u", "i"]) :=
    endsInOneOf_without _ _ plain (by decide)
  have kept : endsInOneOf stem ["s", "u", "i"] = endsInOneOf stem ["u", "i"] :=
    endsInOneOf_without _ _ plain (by decide)
  have ie : endsInOneOf stem ["ie"] = false := endsInOneOf_without _ [] plain (by decide)
  have use : endsInOneOf stem ["use"] = false := endsInOneOf_without _ [] plain (by decide)
  have is : endsInOneOf stem ["is"] = false := endsInOneOf_without _ [] plain (by decide)
  have last : (Change.cut 1 "").apply (stem ++ "s".toList) = stem := by
    have whole := apply_cut stem "s".toList ""
    rw [String.toList_empty, List.append_nil] at whole
    exact whole
  have longer : Change.keep.apply (stem ++ "s".toList) ≠ stem :=
    fun same => absurd (List.append_right_eq_self.mp same) (by decide)
  rw [Restored, apply_cut_zero, singularChange_s stem noE regular,
    apply_ite_iff (fun _ => longer), apply_ite_iff (fun _ => longer),
    apply_ite_iff (fun _ => longer), last, kept]
  rw [isMisread, words, endings, ie, use, is, endsInOneOf_append_list]
  cases vowel : endsInOneOf stem ["u", "i"] with
  | true => simp
  | false =>
    rw [endsInOneOf_without ["alia", "ga", "tla", "tma", "ri"] ["alia", "ga", "tla", "tma"] vowel
      (by decide)]
    simp

/-! The other rules lead back by one rule of their own. -/

theorem isMisread_apart {word : List Char} {endings : List String}
    (ends : endsInOneOf word endings = true)
    (words : ∀ other ∈ misreadWords, endsInOneOf other.toList endings = false)
    (apart : ∀ one ∈ endings, ∀ other ∈ misreadEndings ++ ["ie", "use", "is"],
      ¬one.toList <:+ other.toList ∧ ¬other.toList <:+ one.toList) :
    isMisread word = false := by
  have none : ∀ others : List String, (∀ other ∈ others, other ∈ misreadEndings ++ ["ie", "use", "is"]) →
      endsInOneOf word others = false :=
    fun others within => endsInOneOf_apart _ ends
      (fun one member other inOthers => apart one member other (within other inOthers))
  refine isMisread_eq_false (isOneOf_apart ends words) (none _ ?_) (none _ ?_) (none _ ?_) (none _ ?_)
  · exact fun other member => List.mem_append_left _ member
  all_goals decide

theorem restored_of {word text : List Char} {change back : Change}
    (plural : change.apply word = text) (singular : singularChange text = back)
    (comes : back.apply text = word) (known : isMisread word = false) : Restored word change := by
  rw [Restored, plural, singular]
  exact iff_of_true comes known

theorem restored_lf {word : List Char} (ends : endsInOneOf word ["lf", "eaf"] = true) :
    Restored word (.cut 1 "ves") := by
  have known : isMisread word = false := isMisread_apart ends (by decide) (by decide)
  obtain ⟨stem, rfl⟩ : ∃ stem, word = stem ++ "f".toList :=
    exists_stem (endsInOneOf_of_endings ends (by decide))
  have stemEnds : endsInOneOf (stem ++ "v".toList) ["lv", "eav"] = true := by
    rw [endsInOneOf_append stem "f" _ ["l", "ea"] (by decide) (by decide)] at ends
    rw [endsInOneOf_append stem "v" _ ["l", "ea"] (by decide) (by decide), ends]
  have plural : (Change.cut 1 "ves").apply (stem ++ "f".toList) =
      stem ++ "v".toList ++ "es".toList := by
    rw [List.append_assoc]
    exact apply_cut stem "f".toList "ves"
  have comes : (Change.cut 3 "f").apply (stem ++ "v".toList ++ "es".toList) =
      stem ++ "f".toList := by
    rw [List.append_assoc]
    exact apply_cut stem "ves".toList "f"
  refine restored_of plural ((singularChange_es _).trans ?_) comes known
  refine ite_skip (isOneOf_apart stemEnds (by decide)) ?_
  refine ite_skip (endsInOneOf_apart _ stemEnds (by decide)) ?_
  refine ite_skip (endsInOneOf_apart _ stemEnds (by decide)) ?_
  refine ite_skip ?_ ?_
  · rw [endsInOneOf_apart _ stemEnds (by decide)]
    rfl
  refine ite_skip (isOneOf_apart stemEnds (by decide)) ?_
  exact ite_take stemEnds

theorem restored_y {word : List Char} (ends : endsInOneOf word ["y"] = true)
    (consonant : hasConsonantBefore word 1 = true) : Restored word (.cut 1 "ies") := by
  obtain ⟨stem, rfl⟩ : ∃ stem, word = stem ++ "y".toList := exists_stem ends
  have words : isOneOf (stem ++ "y".toList) misreadWords = isOneOf stem ["ser", "spec"] :=
    isOneOf_append stem "y" _ _ (by decide)
  have endings : endsInOneOf (stem ++ "y".toList) misreadEndings = false :=
    endsInOneOf_append stem "y" _ [] (by decide) (by decide)
  have stemEnds : endsInOneOf (stem ++ "i".toList) ["i"] = true :=
    (endsInOneOf_append stem "i" _ [""] (by decide) (by decide)).trans
      ((endsInOneOf_iff stem [""]).mpr ⟨"", List.mem_singleton.mpr rfl, List.nil_suffix⟩)
  have stemConsonant : hasConsonantBefore (stem ++ "i".toList) 1 = true :=
    (congrArg _ (beforeEnd?_append stem "i".toList 0)).trans
      ((congrArg _ (beforeEnd?_append stem "y".toList 0)).symm.trans consonant)
  have plural : (Change.cut 1 "ies").apply (stem ++ "y".toList) =
      stem ++ "i".toList ++ "es".toList := by
    rw [List.append_assoc]
    exact apply_cut stem "y".toList "ies"
  have comes : (Change.cut 3 "y").apply (stem ++ "i".toList ++ "es".toList) =
      stem ++ "y".toList := by
    rw [List.append_assoc]
    exact apply_cut stem "ies".toList "y"
  have kept : Change.keep.apply (stem ++ "i".toList ++ "es".toList) ≠ stem ++ "y".toList := by
    rw [List.append_assoc]
    exact fun same => absurd (List.append_cancel_left same) (by decide)
  rw [Restored, plural, singularChange_es, apply_ite_iff (fun _ => kept),
    isOneOf_append stem "i" _ ["ser", "spec"] (by decide)]
  rw [ite_skip (endsInOneOf_apart _ stemEnds (by decide)) (ite_skip
    (endsInOneOf_apart _ stemEnds (by decide)) (ite_take (by rw [stemEnds, stemConsonant]; rfl))),
    comes]
  rw [isMisread, words, endings, endsInOneOf_apart ["ie"] ends (by decide),
    endsInOneOf_apart ["use"] ends (by decide),
    endsInOneOf_apart ["is"] ends (by decide)]
  simp

theorem restored_hiss {word : List Char}
    (ends : endsInOneOf word ["ss", "sh", "ch", "x", "z"] = true) :
    Restored word (.cut 0 "es") := by
  have known : isMisread word = false := isMisread_apart ends (by decide) (by decide)
  refine restored_of (apply_cut_zero word "es") ((singularChange_es word).trans ?_) (apply_es word)
    known
  refine ite_skip (isOneOf_apart ends (by decide)) ?_
  refine ite_skip (endsInOneOf_apart _ ends (by decide)) ?_
  refine ite_skip (endsInOneOf_apart _ ends (by decide)) ?_
  refine ite_skip ?_ ?_
  · rw [endsInOneOf_apart _ ends (by decide)]
    rfl
  refine ite_skip (isOneOf_apart ends (by decide)) ?_
  refine ite_skip (endsInOneOf_apart _ ends (by decide)) ?_
  rw [ite_take ends, ite_self]

theorem any_beforeEnd? (stem : List Char) :
    (beforeEnd? stem 0).any (fun c => !"aou".toList.contains c) =
      !(isOneOf stem [""] || endsInOneOf stem ["a", "o", "u"]) := by
  rcases List.eq_nil_or_concat stem with rfl | ⟨front, c, rfl⟩
  · decide
  · have last : ∀ d : Char, [d].isSuffixOf (front ++ [c]) = (c == d) := by
      intro d
      rw [Bool.eq_iff_iff, List.isSuffixOf_iff_suffix, beq_iff_eq]
      simp [eq_comm]
    rw [Bool.eq_iff_iff]
    simp [beforeEnd?, isOneOf, endsInOneOf, last]

/-- Words in `-us` come back if a character other than `a`, `o` and `u` stands before it. -/
theorem restored_us {word : List Char} (ends : endsInOneOf word ["us"] = true) :
    Restored word (.cut 0 "es") := by
  have singular : singularChange (word ++ "es".toList) =
      if (beforeEnd? word 2).any (fun c => !"aou".toList.contains c) then .cut 2 ""
      else .cut 1 "" := by
    refine (singularChange_es word).trans ?_
    refine ite_skip (isOneOf_apart ends (by decide)) ?_
    refine ite_skip (endsInOneOf_apart _ ends (by decide)) ?_
    refine ite_skip (endsInOneOf_apart _ ends (by decide)) ?_
    refine ite_skip ?_ ?_
    · rw [endsInOneOf_apart _ ends (by decide)]
      rfl
    refine ite_skip (isOneOf_apart ends (by decide)) ?_
    refine ite_skip (endsInOneOf_apart _ ends (by decide)) ?_
    refine ite_skip (isOneOf_apart ends (by decide)) ?_
    refine ite_skip (endsInOneOf_apart _ ends (by decide)) ?_
    rw [ends, Bool.true_and]
  have longer : (Change.cut 1 "").apply (word ++ "es".toList) ≠ word :=
    fun same => absurd (List.append_right_eq_self.mp ((apply_e word).symm.trans same)) (by decide)
  obtain ⟨stem, rfl⟩ := exists_stem ends
  have words : isOneOf (stem ++ "us".toList) misreadWords = isOneOf stem [""] :=
    isOneOf_append stem "us" _ _ (by decide)
  have endings : endsInOneOf (stem ++ "us".toList) misreadEndings =
      endsInOneOf stem ["a", "o", "u"] :=
    endsInOneOf_append stem "us" _ _ (by decide) (by decide)
  have before : beforeEnd? (stem ++ "us".toList) 2 = beforeEnd? stem 0 :=
    beforeEnd?_append stem "us".toList 0
  rw [Restored, apply_cut_zero, singular, isMisread_s (endsInOneOf_of_endings ends (by decide)),
    words, endings, before, any_beforeEnd?, endsInOneOf_apart ["is"] ends (by decide)]
  cases misread : isOneOf stem [""] || endsInOneOf stem ["a", "o", "u"] with
  | true => exact iff_of_false longer Bool.noConfusion
  | false => exact iff_of_true (apply_es _) rfl

/-- Of the endings of singulars in `-s` only `-ris` has a form that is read as a word in `-sis`. -/
theorem restored_sEnding {word : List Char} (ends : endsInOneOf word sEndings = true) :
    Restored word (.cut 0 "es") := by
  have singular : singularChange (word ++ "es".toList) =
      if endsInOneOf word ["cris"] then .cut 2 "is" else .cut 2 "" := by
    refine (singularChange_es word).trans ?_
    refine ite_skip (isOneOf_apart ends (by decide)) ?_
    exact ite_test (endsInOneOf_among _ _ ends (by decide)) (ite_take ends)
  have is : (endsInOneOf word ["is"] && word != "is".toList &&
      !endsInOneOf word (["ris"] ++ sisStems.map (· ++ "sis"))) = false := by
    cases isEnds : endsInOneOf word ["is"] with
    | false => rfl
    | true =>
      rw [endsInOneOf_among sEndings ["ris"] isEnds (by decide)] at ends
      rw [endsInOneOf_of_endings ends (by decide)]
      simp
  have known : isMisread word = endsInOneOf word ["cris"] := by
    rw [isMisread_s (endsInOneOf_of_endings ends (by decide)), isOneOf_apart ends (by decide),
      endsInOneOf_among misreadEndings ["cris"] ends (by decide), is, Bool.false_or, Bool.or_false]
  have longer : (Change.cut 2 "is").apply (word ++ "es".toList) ≠ word :=
    fun same => absurd (List.append_right_eq_self.mp ((apply_is word).symm.trans same)) (by decide)
  rw [Restored, apply_cut_zero, singular, known]
  cases endsInOneOf word ["cris"] with
  | true => exact iff_of_false longer Bool.noConfusion
  | false => exact iff_of_true (apply_es _) rfl

/-- Words in `-is` come back if they have one of the known stems. -/
theorem restored_is {word : List Char} (ends : endsInOneOf word ["is"] = true)
    (longer : word ≠ "is".toList) (other : endsInOneOf word sEndings = false) :
    Restored word (.cut 2 "es") := by
  obtain ⟨stem, rfl⟩ := exists_stem ends
  have noR : endsInOneOf (stem ++ "is".toList) ["ris"] = false :=
    endsInOneOf_without ["ris"] [] other (by decide)
  have noCris : endsInOneOf (stem ++ "is".toList) misreadEndings = false := by
    rw [endsInOneOf_among misreadEndings ["cris"] ends (by decide)]
    exact endsInOneOf_without _ [] noR (by decide)
  have known : isMisread (stem ++ "is".toList) = !endsInOneOf stem (sisStems.map (· ++ "s")) := by
    rw [isMisread_s (endsInOneOf_of_endings ends (by decide)), isOneOf_apart ends (by decide), noCris,
      ends, bne_iff_ne.mpr longer,
      endsInOneOf_append_list _ ["ris"] (sisStems.map (· ++ "sis")), noR,
      endsInOneOf_append stem "is" _ (sisStems.map (· ++ "s")) (by decide) (by decide)]
    simp
  have plural : (Change.cut 2 "es").apply (stem ++ "is".toList) = stem ++ "es".toList :=
    apply_cut stem "is".toList "es"
  rw [Restored, plural, known]
  cases sis : endsInOneOf stem (sisStems.map (· ++ "s")) with
  | true =>
    rw [singularChange_es, ite_skip (isOneOf_apart sis (by decide)) (ite_take sis)]
    exact iff_of_true (apply_is stem) rfl
  | false =>
    -- Without one of the stems no rule writes `-is`.
    rw [apply_es_iff stem "is".toList (by decide) (by decide)
      (fun known => absurd (sis.symm.trans known) Bool.noConfusion)]
    refine iff_of_false ?_ Bool.noConfusion
    intro found
    obtain ⟨-, -, -, -, -, -, -, -, -, same⟩ := found
    exact absurd same (by decide)

theorem isMisread_plural {word : List Char} (ends : endsInOneOf word ["s"] = true)
    (noSEnding : endsInOneOf word sEndings = false)
    (noIs : (endsInOneOf word ["is"] && word != "is".toList) = false)
    (noHiss : endsInOneOf word ["us", "ss", "sh", "ch", "x", "z"] = false) :
    isMisread word = false := by
  have words : isOneOf word misreadWords = false := by
    rw [isOneOf_without misreadWords misreadWords.tail noHiss (by decide)]
    exact isOneOf_apart ends (by decide)
  have endings : endsInOneOf word misreadEndings = false := by
    rw [endsInOneOf_among misreadEndings ["cris", "aus", "ous", "uus"] ends (by decide),
      endsInOneOf_without _ ["cris"] noHiss (by decide)]
    exact endsInOneOf_without _ [] noSEnding (by decide)
  rw [isMisread_s ends, words, endings, noIs]
  rfl

/-! The words of the lists, and all words together. -/

theorem restored_irregular {word : List Char} {plural : String}
    (found : partner? word irregularPlurals = some plural) : Restored word (.become plural) := by
  have all : ∀ pair ∈ irregularPlurals, Restored pair.1.toList (.become pair.2) := by decide
  obtain ⟨pair, member, rfl, rfl⟩ := mem_of_partner? found
  exact all pair member

/-- A word that is its own plural comes back if it is its own singular. -/
theorem restored_keep {word : List Char} {words : List String} (member : isOneOf word words = true)
    (singular : (singularChange word).apply word = word)
    (known : ∀ other ∈ words, isMisread other.toList = false ∨
      (singularChange other.toList).apply other.toList ≠ other.toList) : Restored word .keep := by
  have either : isMisread word = false ∨ (singularChange word).apply word ≠ word :=
    of_isOneOf (fun other => isMisread other = false ∨ (singularChange other).apply other ≠ other)
      member known
  rcases either with fine | plural
  · exact iff_of_true singular fine
  · contradiction

theorem restored_plain {word : List Char} (regular : partner? word irregularPlurals = none)
    (noS : endsInOneOf word ["s"] = false)
    (noY : (endsInOneOf word ["y"] && hasConsonantBefore word 1) = false) :
    Restored word (.cut 0 "s") := by
  cases ends : endsInOneOf word ["e"] with
  | true =>
    obtain ⟨stem, rfl⟩ := exists_stem ends
    exact restored_e stem
  | false =>
    have plain : endsInOneOf word (["e"] ++ ["s"]) = false := by
      rw [endsInOneOf_append_list, ends, noS]
      rfl
    have noPerson : isOneOf word ["person"] = false := by
      have none : isOneOf word (["person"] ++ (irregularPlurals.map Prod.fst).tail) = false :=
        (partner?_eq_none_iff word irregularPlurals).mp regular
      rw [isOneOf_append_list, Bool.or_eq_false_iff] at none
      exact none.1
    have noSery : isOneOf word ["sery", "specy"] = false := by
      rw [Bool.eq_false_iff]
      intro member
      have yes : (endsInOneOf word ["y"] && hasConsonantBefore word 1) = true :=
        of_isOneOf (fun other => (endsInOneOf other ["y"] && hasConsonantBefore other 1) = true)
          member (by decide)
      rw [yes] at noY
      contradiction
    exact restored_s word plain noPerson noSery

/-- A word that is its own singular comes back from its plural unless it is misread. -/
theorem restored_pluralChange (word : List Char)
    (singular : (singularChange word).apply word = word) : Restored word (pluralChange word) := by
  have feWords : ∀ other ∈ feStems.map (· ++ "fe"), Restored other.toList (.cut 2 "ves") := by decide
  have oes : ∀ other ∈ oWords, Restored other.toList (.cut 0 "es") := by decide
  unfold pluralChange
  refine .ite ?_ (fun _ => ?_)
  · intro test
    rw [Bool.or_eq_true, List.isEmpty_iff] at test
    rcases test with rfl | uncountable
    · decide
    · exact restored_keep uncountable singular (by decide)
  split
  · next plural found => exact restored_irregular found
  next regular =>
  refine .ite (fun member => restored_keep member singular (by decide)) (fun _ => ?_)
  refine .ite (fun member => restored_keep member singular (by decide)) (fun _ => ?_)
  refine .ite restored_sEnding (fun noSEnding => ?_)
  refine .ite ?_ (fun noIs => ?_)
  · intro test
    rw [Bool.and_eq_true, bne_iff_ne] at test
    exact restored_is test.1 test.2 noSEnding
  refine .ite ?_ (fun noHiss => ?_)
  · intro test
    have either := (endsInOneOf_append_list word ["us"] ["ss", "sh", "ch", "x", "z"]).symm.trans test
    exact (Bool.or_eq_true_iff.mp either).elim restored_us restored_hiss
  refine .ite ?_ (fun noS => ?_)
  · exact fun ends => iff_of_true singular (isMisread_plural ends noSEnding noIs noHiss)
  refine .ite ?_ (fun noY => ?_)
  · intro test
    rw [Bool.and_eq_true] at test
    exact restored_y test.1 test.2
  refine .ite (fun member => of_isOneOf (Restored · (.cut 2 "ves")) member feWords) (fun _ => ?_)
  refine .ite restored_lf (fun _ => ?_)
  refine .ite (fun member => of_isOneOf (Restored · (.cut 0 "es")) member oes) (fun _ => ?_)
  exact restored_plain regular noS noY

end RecordSql.Name
