import RecordSql.Proofs.Name.SnakeCase

/-!
Snake case of ASCII names, character by character. Separators become underscores, letters become
small, and the only underscores that are added stand before capitals.
-/

namespace RecordSql.Name
open Unicode

def isSeparator (c : Char) : Bool := c == '_' || c == '-' || c == ' '

/-- What stands for a character in snake case. -/
def snakeChar (c : Char) : Char := if isSeparator c then '_' else c.toLower

/-- Whether a text begins with a capital. -/
def beginsUpper (text : List Char) : Bool := text.head?.any Char.isUpper

/-- Every character of a text is respelled by itself. An underscore may be added between a letter or
a digit and a capital after it, and it is added after small letters and digits. -/
inductive Respelled : List Char → List Char → Prop where
  | nil : Respelled [] []
  | next (c : Char) {text result : List Char}
      (within : beginsUpper text = true → c.isLower = false ∧ c.isDigit = false)
      (rest : Respelled text result) : Respelled (c :: text) (snakeChar c :: result)
  | parted (c : Char) {text result : List Char} (inWord : c.isAlphanum = true)
      (capital : beginsUpper text = true) (rest : Respelled text result) :
      Respelled (c :: text) (snakeChar c :: '_' :: result)

namespace Respelled
variable {text result : List Char}

theorem mem_result (respelled : Respelled text result) (ascii : ∀ c ∈ text, c.toNat < 128) :
    ∀ c ∈ result, c.isUpper = false ∧ c ≠ ' ' ∧ c ≠ '-' := by
  have own (c : Char) (code : c.toNat < 128) :
      (snakeChar c).isUpper = false ∧ snakeChar c ≠ ' ' ∧ snakeChar c ≠ '-' :=
    of_ascii (fun c => (snakeChar c).isUpper = false ∧ snakeChar c ≠ ' ' ∧ snakeChar c ≠ '-')
      (by decide) c code
  induction respelled with
  | nil => exact List.forall_mem_nil _
  | next c within rest ih =>
    rw [List.forall_mem_cons] at ascii
    exact List.forall_mem_cons.mpr ⟨own c ascii.1, ih ascii.2⟩
  | parted c inWord capital rest ih =>
    rw [List.forall_mem_cons] at ascii
    refine List.forall_mem_cons.mpr ⟨own c ascii.1, List.forall_mem_cons.mpr ⟨?_, ih ascii.2⟩⟩
    decide

/-- Without underscores the result is the text in lower case without separators. -/
theorem filter_result (respelled : Respelled text result) (ascii : ∀ c ∈ text, c.toNat < 128) :
    result.filter (· != '_') = (text.filter (!isSeparator ·)).map Char.toLower := by
  have step (c : Char) {text result : List Char} (code : c.toNat < 128)
      (rest : result.filter (· != '_') = (text.filter (!isSeparator ·)).map Char.toLower) :
      (snakeChar c :: result).filter (· != '_') =
        ((c :: text).filter (!isSeparator ·)).map Char.toLower := by
    have own := of_ascii (fun c => [snakeChar c].filter (· != '_') =
      ([c].filter (!isSeparator ·)).map Char.toLower) (by decide) c code
    rw [← List.singleton_append, List.filter_append, own, rest, ← List.map_append,
      ← List.filter_append, List.singleton_append]
  induction respelled with
  | nil => rfl
  | next c within rest ih =>
    rw [List.forall_mem_cons] at ascii
    exact step c ascii.1 (ih ascii.2)
  | parted c inWord capital rest ih =>
    rw [List.forall_mem_cons] at ascii
    exact step c ascii.1 (ih ascii.2)

/-- Where two characters of the text meet, the result is divided as well. -/
theorem parts {front : List Char} {b c : Char} {rest : List Char}
    (respelled : Respelled (front ++ b :: c :: rest) result) :
    ∃ left right, Respelled (front ++ [b]) left ∧ Respelled (c :: rest) right ∧
      (result = left ++ right ∧ (c.isUpper = true → b.isLower = false ∧ b.isDigit = false) ∨
        result = left ++ '_' :: right ∧ c.isUpper = true ∧ b.isAlphanum = true) := by
  induction front generalizing result with
  | nil =>
    have alone : Respelled [b] [snakeChar b] := .next b nofun .nil
    cases respelled with
    | next _ within rest => exact ⟨_, _, alone, rest, Or.inl ⟨rfl, within⟩⟩
    | parted _ inWord capital rest => exact ⟨_, _, alone, rest, Or.inr ⟨rfl, capital, inWord⟩⟩
  | cons a front ih =>
    have head : beginsUpper (front ++ b :: c :: rest) = beginsUpper (front ++ [b]) := by
      cases front <;> rfl
    cases respelled with
    | next _ within later =>
      obtain ⟨left, right, before, after, meets⟩ := ih later
      refine ⟨snakeChar a :: left, right, .next a (head ▸ within) before, after, ?_⟩
      exact meets.imp (And.imp_left (congrArg (snakeChar a :: ·)))
        (And.imp_left (congrArg (snakeChar a :: ·)))
    | parted _ inWord capital later =>
      obtain ⟨left, right, before, after, meets⟩ := ih later
      refine ⟨snakeChar a :: '_' :: left, right, .parted a inWord (head ▸ capital) before, after, ?_⟩
      exact meets.imp (And.imp_left (congrArg (snakeChar a :: '_' :: ·)))
        (And.imp_left (congrArg (snakeChar a :: '_' :: ·)))

end Respelled

/-! Clusters of ASCII characters. -/

namespace Cluster

/-- A character by itself, or a carriage return and the line feed that stays with it. -/
def IsAscii (cluster : Cluster) : Prop :=
  cluster.first.toNat < 128 ∧ cluster.others = [] ∨ cluster = ⟨'\r', ['\n']⟩

theorem IsAscii.kinds {cluster : Cluster} (ascii : cluster.IsAscii) :
    cluster.isUpper = cluster.first.isUpper ∧ cluster.isLower = cluster.first.isLower ∧
      cluster.isDigit = cluster.first.isDigit ∧
      cluster.isDelimiter = isSeparator cluster.first := by
  rcases ascii with ⟨code, alone⟩ | rfl
  · obtain ⟨c, others⟩ := cluster
    cases alone
    exact of_ascii (fun c => isUpper ⟨c, []⟩ = c.isUpper ∧ isLower ⟨c, []⟩ = c.isLower ∧
      isDigit ⟨c, []⟩ = c.isDigit ∧ isDelimiter ⟨c, []⟩ = isSeparator c) (by decide +kernel) c code
  · decide +kernel

end Cluster

/-- The rest of a cluster is empty, or the line feed behind a carriage return. -/
theorem restAndClusters_ascii (seam : Seam) (text : List Char) (ascii : ∀ c ∈ text, c.toNat < 128)
    (last : seam.last.isSimple = true) :
    ((restAndClusters seam text).1 = [] ∨
      seam.last = .carriageReturn ∧ (restAndClusters seam text).1 = ['\n']) ∧
    ∀ cluster ∈ (restAndClusters seam text).2, cluster.IsAscii := by
  induction text generalizing seam with
  | nil => exact ⟨Or.inl rfl, List.forall_mem_nil _⟩
  | cons c text ih =>
    rw [List.forall_mem_cons] at ascii
    obtain ⟨simple, carriageReturn, lineFeed⟩ := joining_ascii c ascii.1
    obtain ⟨rest, later⟩ := ih (seam.next (joining c)) ascii.2 simple
    simp only [restAndClusters, seam.simple_joins last _ simple]
    split
    · next joined =>
      simp only [Bool.and_eq_true, beq_iff_eq] at joined
      refine ⟨Or.inr ⟨joined.1, ?_⟩, later⟩
      -- Nothing stays with the line feed, since it is no carriage return itself.
      rcases rest with alone | ⟨again, -⟩
      · rw [alone, lineFeed joined.2]
      · exact absurd (joined.2.symm.trans again) (by decide)
    · refine ⟨Or.inl rfl, List.forall_mem_cons.mpr ⟨?_, later⟩⟩
      rcases rest with alone | ⟨before, feed⟩
      · exact Or.inl ⟨ascii.1, alone⟩
      · exact Or.inr (by rw [feed, carriageReturn before])

theorem isAscii_clusters (text : List Char) (ascii : ∀ c ∈ text, c.toNat < 128) :
    ∀ cluster ∈ clusters text, cluster.IsAscii :=
  (restAndClusters_ascii .front text ascii rfl).2

/-! Words of ASCII characters. -/

section
variable {cluster : Cluster} {text : List Cluster} (own : cluster.IsAscii)
  (later : ∀ other ∈ text, other.IsAscii)
include own later

theorem endsWordBefore_ascii :
    endsWordBefore cluster text =
      (beginsUpper (text.flatMap Cluster.text) &&
        (cluster.first.isLower || cluster.first.isDigit ||
          (cluster.first.isUpper && text.tail.head?.any Cluster.isLower))) := by
  obtain ⟨upper, lower, digit, -⟩ := own.kinds
  rw [← upper, ← lower, ← digit]
  cases text with
  | nil => rfl
  | cons next text =>
    have capital : beginsUpper ((next :: text).flatMap Cluster.text) = next.isUpper :=
      (later next (List.mem_cons_self ..)).kinds.1.symm
    rw [capital]
    rfl

theorem parted_of_ends (ends : endsWordBefore cluster text = true) :
    cluster.others = [] ∧ cluster.first.isAlphanum = true ∧
      beginsUpper (text.flatMap Cluster.text) = true := by
  rw [endsWordBefore_ascii own later, Bool.and_eq_true] at ends
  obtain ⟨begins, kind⟩ := ends
  have inWord : cluster.first.isAlphanum = true := by
    change (cluster.first.isUpper || cluster.first.isLower || cluster.first.isDigit) = true
    simp only [Bool.or_eq_true, Bool.and_eq_true] at kind ⊢
    rcases kind with (small | digit) | ⟨capital, -⟩
    · exact Or.inl (Or.inr small)
    · exact Or.inr digit
    · exact Or.inl (Or.inl capital)
  rcases own with ⟨-, alone⟩ | rfl
  · exact ⟨alone, inWord, begins⟩
  · contradiction

theorem within_of_stays (stays : endsWordBefore cluster text = false)
    (begins : beginsUpper (text.flatMap Cluster.text) = true) :
    cluster.first.isLower = false ∧ cluster.first.isDigit = false := by
  rw [endsWordBefore_ascii own later, begins, Bool.true_and, Bool.or_eq_false_iff,
    Bool.or_eq_false_iff] at stays
  exact stays.1

end

theorem respelled_joinedWords (text : List Cluster) (ascii : ∀ cluster ∈ text, cluster.IsAscii) :
    Respelled (text.flatMap Cluster.text) (joinedWords Char.toLower text) := by
  induction text with
  | nil => exact .nil
  | cons cluster text ih =>
    obtain ⟨own, later⟩ := List.forall_mem_cons.mp ascii
    have rest := ih later
    have delimiter := own.kinds.2.2.2
    obtain ⟨c, others⟩ := cluster
    rw [List.flatMap_cons, joinedWords_cons, delimiter]
    split
    · next separator =>
      have underscore : snakeChar c = '_' := if_pos separator
      have outside : c.isLower = false ∧ c.isDigit = false := by
        simp only [isSeparator, Bool.or_eq_true, beq_iff_eq] at separator
        rcases separator with (rfl | rfl) | rfl <;> decide
      have alone : others = [] := by
        rw [separator] at delimiter
        simp only [Cluster.isDelimiter, Bool.and_eq_true, List.isEmpty_iff] at delimiter
        exact delimiter.1
      rw [alone, ← underscore]
      exact .next c (fun _ => outside) rest
    · next other =>
      have lower : snakeChar c = c.toLower := if_neg other
      split
      · next ends =>
        obtain ⟨alone, inWord, begins⟩ := parted_of_ends own later ends
        cases alone
        rw [Cluster.text, List.map_singleton, ← lower]
        exact .parted c inWord begins rest
      · next stays =>
        have within := within_of_stays own later (Bool.eq_false_iff.mpr stays)
        rcases own with ⟨-, alone⟩ | same
        · cases alone
          rw [Cluster.text, List.map_singleton, ← lower]
          exact .next c within rest
        · -- Two characters are respelled, and no capital or letter is among them.
          cases same
          have feed : Respelled ('\n' :: text.flatMap Cluster.text)
              ('\n' :: joinedWords Char.toLower text) := .next '\n' (fun _ => ⟨rfl, rfl⟩) rest
          exact .next '\r' (fun _ => ⟨rfl, rfl⟩) feed

theorem snakeText_ascii (text : List Char) (ascii : ∀ c ∈ text, c.toNat < 128) :
    snakeText text = joinedWords Char.toLower (clusters text) := by
  have lowered : (words text).map lowerText = (words text).map (List.map Char.toLower) :=
    List.map_congr_left (lowerText_ascii_word text ascii)
  rw [snakeText, lowered]
  rfl

theorem toList_snakeCase (name : String) : (snakeCase name).toList = snakeText name.toList :=
  String.toList_ofList

/-- Snake case only respells an ASCII name: nothing is lost but the case of letters and the kind of
separators, and of the underscores that are added each stands before a capital. -/
theorem snakeCase_respelled (name : String) (ascii : ∀ c ∈ name.toList, c.toNat < 128) :
    Respelled name.toList (snakeCase name).toList ∧
    (∀ c ∈ (snakeCase name).toList, c.isUpper = false ∧ c ≠ ' ' ∧ c ≠ '-') ∧
    (snakeCase name).toList.filter (· != '_') =
      (name.toList.filter (!isSeparator ·)).map Char.toLower ∧
    ∀ front b c rest, name.toList = front ++ b :: c :: rest →
      ∃ left right, Respelled (front ++ [b]) left ∧ Respelled (c :: rest) right ∧
        ((snakeCase name).toList = left ++ right ∨
          (snakeCase name).toList = left ++ '_' :: right ∧ c.isUpper = true ∧
            b.isAlphanum = true) ∧
        (b.isLower = true ∨ b.isDigit = true → c.isUpper = true →
          (snakeCase name).toList = left ++ '_' :: right) := by
  have respelled : Respelled name.toList (snakeCase name).toList := by
    have clustered := respelled_joinedWords _ (isAscii_clusters name.toList ascii)
    rwa [clusters_text, ← snakeText_ascii _ ascii, ← toList_snakeCase] at clustered
  refine ⟨respelled, respelled.mem_result ascii, respelled.filter_result ascii, ?_⟩
  intro front b c rest whole
  rw [whole] at respelled
  obtain ⟨left, right, before, after, meets⟩ := respelled.parts
  refine ⟨left, right, before, after, ?_⟩
  rcases meets with ⟨together, within⟩ | ⟨parted, capital, inWord⟩
  · refine ⟨Or.inl together, fun small capital => ?_⟩
    obtain ⟨large, noDigit⟩ := within capital
    rw [large, noDigit] at small
    simp at small
  · exact ⟨Or.inr ⟨parted, capital, inWord⟩, fun _ _ => parted⟩

/-- The digit and the capital behind it are parted, and so are the capitals before small letters. -/
theorem snakeCase_respelled_oauth :
    (∀ c ∈ "OAuth2Token-IDs".toList, c.toNat < 128) ∧
    "OAuth2Token-IDs".toList = "OAuth".toList ++ '2' :: 'T' :: "oken-IDs".toList ∧
    snakeCase "OAuth2Token-IDs" = "o_auth2_token_i_ds" ∧
    Respelled "OAuth2Token-IDs".toList (snakeCase "OAuth2Token-IDs").toList ∧
    ∃ left right, Respelled ("OAuth".toList ++ ['2']) left ∧
      Respelled ('T' :: "oken-IDs".toList) right ∧
      (snakeCase "OAuth2Token-IDs").toList = left ++ '_' :: right := by
  have ascii : ∀ c ∈ "OAuth2Token-IDs".toList, c.toNat < 128 := by simp
  have whole : "OAuth2Token-IDs".toList = "OAuth".toList ++ '2' :: 'T' :: "oken-IDs".toList := by
    decide
  obtain ⟨respelled, -, -, parts⟩ := snakeCase_respelled "OAuth2Token-IDs" ascii
  obtain ⟨left, right, before, after, -, parted⟩ := parts _ _ _ _ whole
  exact ⟨ascii, whole, by decide +kernel, respelled, left, right, before, after,
    parted (Or.inr (by decide)) (by decide)⟩

end RecordSql.Name
