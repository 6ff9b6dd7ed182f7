import RecordSql.Unicode.LowerCase

/-!
Lower case is reached in one step: no letter of a text in lower case is mapped any further, by
itself or in its word. On ASCII it is the lower case of single letters.
-/

namespace RecordSql.Unicode

/-- A character that stays as it is in the lower case of every text. -/
def IsLowered (c : Char) : Prop := lowerChar c = [c] ∧ c ≠ 'Σ'

instance (c : Char) : Decidable (IsLowered c) := inferInstanceAs (Decidable (_ ∧ _))

theorem lowerAfter_lowered (before text : List Char) (lowered : ∀ c ∈ text, IsLowered c) :
    lowerAfter before text = text := by
  induction text generalizing before with
  | nil => rfl
  | cons c text ih =>
    have head := lowered c (List.mem_cons_self ..)
    rw [lowerAfter, if_neg head.2, head.1,
      ih (c :: before) (fun d member => lowered d (List.mem_cons_of_mem c member))]
    rfl

theorem lowerText_lowered (text : List Char) (lowered : ∀ c ∈ text, IsLowered c) :
    lowerText text = text :=
  lowerAfter_lowered [] text lowered

/-! A table of letter maps is searched as far as the code point. -/

theorem imageIn?_some (maps : List LetterMap) (code image : Nat)
    (found : imageIn? code maps = some image) :
    ∃ letters ∈ maps, letters.first ≤ code ∧ code ≤ letters.last ∧
      (code - letters.first) % letters.step = 0 ∧
      image = letters.image + (code - letters.first) := by
  induction maps with
  | nil => simp [imageIn?] at found
  | cons letters maps ih =>
    rw [imageIn?] at found
    split at found
    · simp at found
    · next notBelow =>
      split at found
      · next inside =>
        simp only [Bool.and_eq_true, decide_eq_true_eq, beq_iff_eq] at inside
        refine ⟨letters, List.mem_cons_self .., by omega, inside.1, inside.2, ?_⟩
        exact (Option.some.inj found).symm
      · obtain ⟨other, member, rest⟩ := ih found
        exact ⟨other, List.mem_cons_of_mem letters member, rest⟩

/-- Whether no code point of the stride `first`, `first + step`, … is mapped. -/
def isUnmapped (first last step : Nat) : List LetterMap → Bool
  | [] => true
  | letters :: maps =>
      Nat.blt last letters.first ||
        ((Nat.blt letters.last first ||
          (letters.step == 2 && (first + letters.first) % 2 == 1 && (step == 2 || first == last))) &&
            isUnmapped first last step maps)

theorem imageIn?_unmapped (maps : List LetterMap) (first last step distance : Nat)
    (unmapped : isUnmapped first last step maps = true) (bounded : first + distance ≤ last)
    (onStride : distance % step = 0) : imageIn? (first + distance) maps = none := by
  induction maps with
  | nil => rfl
  | cons letters maps ih =>
    simp only [isUnmapped, Bool.or_eq_true, Bool.and_eq_true, Nat.blt_eq, beq_iff_eq] at unmapped
    rw [imageIn?]
    split
    · rfl
    · next notBelow =>
      rcases unmapped with beyond | ⟨apart, rest⟩
      · omega
      · rw [if_neg, ih rest]
        simp only [Bool.and_eq_true, decide_eq_true_eq, beq_iff_eq, not_and]
        intro inside
        rcases apart with above | ⟨⟨double, odd⟩, short⟩
        · omega
        · have even : distance % 2 = 0 := by
            rcases short with twice | single
            · rw [twice] at onStride
              exact onStride
            · omega
          rw [double]
          omega

/-- The images of the table are code points of characters, none of them mapped again. -/
theorem lowerCaseMaps_final : ∀ letters ∈ lowerCaseMaps,
    isUnmapped letters.image (letters.image + (letters.last - letters.first)) letters.step
      lowerCaseMaps = true ∧
    letters.image + (letters.last - letters.first) < 0x110000 ∧
    (letters.image + (letters.last - letters.first) < 0xD800 ∨ 0xDFFF < letters.image) ∧
    (letters.image + (letters.last - letters.first) < 0x130 ∨ 0x130 < letters.image) ∧
    0x61 ≤ letters.image := by
  decide +kernel

theorem toNat_ofNat (code : Nat) (valid : code.isValidChar) : (Char.ofNat code).toNat = code := by
  unfold Char.ofNat
  rw [dif_pos valid]
  rfl

/-- `d` is the letter that a map of the table puts in the place of `c`. -/
def IsImage (c d : Char) : Prop :=
  ∃ letters ∈ lowerCaseMaps, ∃ distance, distance ≤ letters.last - letters.first ∧
    distance % letters.step = 0 ∧ letters.first + distance ≤ letters.last ∧
    c.toNat = letters.first + distance ∧ d.toNat = letters.image + distance

/-- Every character is its own lower case, or İ, or has an image in the table. -/
theorem lowerChar_cases (c : Char) :
    (lowerChar c = [c] ∧ c ≠ '\u0130' ∧ imageIn? c.toNat lowerCaseMaps = none) ∨
      (lowerChar c = ['i', '\u0307'] ∧ c = '\u0130') ∨
      ∃ d, lowerChar c = [d] ∧ IsImage c d := by
  unfold lowerChar
  split
  · next capital => exact Or.inr (Or.inl ⟨rfl, capital⟩)
  · next other =>
    split
    · next code found =>
      obtain ⟨letters, member, low, high, onStride, image⟩ := imageIn?_some _ _ _ found
      obtain ⟨-, bounded, valid, -⟩ := lowerCaseMaps_final letters member
      have isCode : (Char.ofNat code).toNat = code := by
        apply toNat_ofNat
        unfold Nat.isValidChar
        omega
      exact Or.inr (Or.inr ⟨Char.ofNat code, rfl, letters, member, c.toNat - letters.first,
        by omega, onStride, by omega, by omega, by omega⟩)
    · next missing => exact Or.inl ⟨rfl, other, missing⟩

theorem isLowered_of_unmapped (c : Char) (other : c ≠ '\u0130')
    (unmapped : imageIn? c.toNat lowerCaseMaps = none) : IsLowered c := by
  refine ⟨by simp only [lowerChar, if_neg other, unmapped], ?_⟩
  intro same
  subst same
  revert unmapped
  decide +kernel

theorem isLowered_image (c d : Char) (image : IsImage c d) : IsLowered d := by
  obtain ⟨letters, member, distance, bounded, onStride, -, -, code⟩ := image
  obtain ⟨unmapped, -, -, apart, -⟩ := lowerCaseMaps_final letters member
  apply isLowered_of_unmapped
  · intro same
    subst same
    have same : (0x130 : Nat) = letters.image + distance := code
    omega
  · rw [code]
    exact imageIn?_unmapped _ _ _ _ _ unmapped (by omega) onStride

theorem isLowered_lowerChar (c d : Char) (member : d ∈ lowerChar c) : IsLowered d := by
  rcases lowerChar_cases c with ⟨own, other, unmapped⟩ | ⟨two, -⟩ | ⟨e, one, image⟩
  · rw [own, List.mem_singleton] at member
    exact member ▸ isLowered_of_unmapped c other unmapped
  · rw [two, List.mem_cons, List.mem_singleton] at member
    rcases member with rfl | rfl <;> decide +kernel
  · rw [one, List.mem_singleton] at member
    exact member ▸ isLowered_image c e image

theorem isLowered_lowerSigma (before after : List Char) : IsLowered (lowerSigma before after) := by
  unfold lowerSigma
  split <;> decide +kernel

theorem isLowered_lowerAfter (before text : List Char) (d : Char)
    (member : d ∈ lowerAfter before text) : IsLowered d := by
  induction text generalizing before with
  | nil => simp [lowerAfter] at member
  | cons c text ih =>
    rw [lowerAfter, List.mem_append] at member
    rcases member with head | tail
    · split at head
      · rw [List.mem_singleton] at head
        exact head ▸ isLowered_lowerSigma before text
      · exact isLowered_lowerChar c d head
    · exact ih (c :: before) tail

theorem isLowered_lowerText (text : List Char) (d : Char) (member : d ∈ lowerText text) :
    IsLowered d :=
  isLowered_lowerAfter [] text d member

/-! ASCII letters are mapped one by one. -/

/-- What holds of every ASCII code holds of every ASCII character. -/
theorem of_ascii (property : Char → Prop) (all : ∀ code < 128, property (Char.ofNat code)) (c : Char)
    (ascii : c.toNat < 128) : property c := by
  rw [← Char.ofNat_toNat c]
  exact all c.toNat ascii

theorem lowerChar_ascii (c : Char) (ascii : c.toNat < 128) : lowerChar c = [c.toLower] :=
  of_ascii (fun c => lowerChar c = [c.toLower]) (by decide) c ascii

theorem lowerText_ascii (text : List Char) (ascii : ∀ c ∈ text, c.toNat < 128) :
    lowerText text = text.map Char.toLower := by
  have after : ∀ before, lowerAfter before text = text.map Char.toLower := by
    induction text with
    | nil => intro before; rfl
    | cons c text ih =>
      intro before
      have head := ascii c (List.mem_cons_self ..)
      have notSigma : c ≠ 'Σ' := by
        intro same
        subst same
        exact absurd head (by decide)
      rw [lowerAfter, if_neg notSigma, lowerChar_ascii c head,
        ih (fun d member => ascii d (List.mem_cons_of_mem c member))]
      rfl
  exact after []

theorem lowerText_toLower (text : List Char) (ascii : ∀ c ∈ text, c.toNat < 128) :
    lowerText (text.map Char.toLower) = lowerText text := by
  rw [← lowerText_ascii text ascii]
  exact lowerText_lowered _ (isLowered_lowerText text)

theorem utf8Size_toLower (c : Char) (ascii : c.toNat < 128) : c.toLower.utf8Size = c.utf8Size :=
  of_ascii (fun c => c.toLower.utf8Size = c.utf8Size) (by decide) c ascii

theorem ascii_of_isLower (c : Char) (letter : c.isLower = true) : c.toNat < 128 := by
  change (decide ('a'.val ≤ c.val) && decide (c.val ≤ 'z'.val)) = true at letter
  rw [Bool.and_eq_true, decide_eq_true_eq, decide_eq_true_eq, UInt32.le_iff_toNat_le,
    UInt32.le_iff_toNat_le] at letter
  exact Nat.lt_of_le_of_lt letter.2 (by decide)

theorem toLower_of_isLower (c : Char) (letter : c.isLower = true) : c.toLower = c :=
  of_ascii (fun c => c.isLower = true → c.toLower = c) (by decide) c (ascii_of_isLower c letter) letter

theorem isLowered_of_isLower (c : Char) (letter : c.isLower = true) : IsLowered c :=
  of_ascii (fun c => c.isLower = true → IsLowered c) (by decide) c (ascii_of_isLower c letter) letter

/-! A text whose lower case ends in ASCII letters ends in the same letters, upper or lower. Two
characters are in the way: the lower case of the Kelvin sign is a `k`, and that of `İ` is an `i` with
a mark behind it. -/

/-- The Kelvin sign is the only character beyond ASCII that is mapped into ASCII. -/
theorem lowerCaseMaps_ascii : ∀ letters ∈ lowerCaseMaps, letters.image < 128 →
    letters.last < 128 ∨ letters.first = letters.last ∧ letters.image = 'k'.toNat := by
  decide +kernel

/-- An ASCII character that is the lower case of ASCII characters only. -/
def IsOwnAscii (d : Char) : Prop := d.toNat < 128 ∧ d ≠ 'k'

instance (d : Char) : Decidable (IsOwnAscii d) := inferInstanceAs (Decidable (_ ∧ _))

theorem code_of_lowerChar (c d : Char) (single : lowerChar c = [d]) (own : IsOwnAscii d) :
    c.toNat < 128 := by
  rcases lowerChar_cases c with ⟨same, -⟩ | ⟨two, -⟩ | ⟨e, one, letters, member, distance, -, -, high,
    code, image⟩
  · rw [same] at single
    exact List.singleton_inj.mp single ▸ own.1
  · rw [two] at single
    simp at single
  · rw [one] at single
    have letter : e = d := List.singleton_inj.mp single
    have ascii := own.1
    rw [letter] at image
    rcases lowerCaseMaps_ascii letters member (by omega) with within | ⟨single, kelvin⟩
    · omega
    · have k : d.toNat = 'k'.toNat := by omega
      exact absurd (Char.toNat_inj.mp k) own.2

/-- The lower case of a text begins with one character for the first one, or with the `i` and the
mark that stand for `İ`. -/
theorem lowerAfter_cases (before : List Char) (c : Char) (text : List Char) :
    (∃ d, lowerAfter before (c :: text) = d :: lowerAfter (c :: before) text ∧
      (IsOwnAscii d → c.toNat < 128 ∧ c.toLower = d)) ∨
    lowerAfter before (c :: text) = 'i' :: '\u0307' :: lowerAfter (c :: before) text := by
  rw [lowerAfter]
  split
  · next sigma =>
    refine Or.inl ⟨lowerSigma before text, rfl, fun own => absurd own ?_⟩
    unfold lowerSigma
    split <;> decide
  · have single (d : Char) (one : lowerChar c = [d]) (own : IsOwnAscii d) :
        c.toNat < 128 ∧ c.toLower = d := by
      have ascii := code_of_lowerChar c d one own
      exact ⟨ascii, List.singleton_inj.mp ((lowerChar_ascii c ascii).symm.trans one)⟩
    rcases lowerChar_cases c with ⟨same, -⟩ | ⟨two, -⟩ | ⟨d, one, -⟩
    · exact Or.inl ⟨c, by rw [same]; rfl, single c same⟩
    · exact Or.inr (by rw [two]; rfl)
    · exact Or.inl ⟨d, by rw [one]; rfl, single d one⟩

theorem ascii_of_lowerAfter (before text : List Char)
    (own : ∀ d ∈ lowerAfter before text, IsOwnAscii d) :
    (∀ c ∈ text, c.toNat < 128) ∧ text.map Char.toLower = lowerAfter before text := by
  induction text generalizing before with
  | nil => exact ⟨nofun, rfl⟩
  | cons c text ih =>
    rcases lowerAfter_cases before c text with ⟨d, same, letter⟩ | same
    · rw [same, List.forall_mem_cons] at own
      obtain ⟨ascii, lower⟩ := letter own.1
      obtain ⟨rest, lowerRest⟩ := ih (c :: before) own.2
      refine ⟨List.forall_mem_cons.mpr ⟨ascii, rest⟩, ?_⟩
      rw [List.map_cons, lower, lowerRest, same]
    · rw [same, List.forall_mem_cons, List.forall_mem_cons] at own
      exact absurd own.2.1 (by decide)

theorem ending_of_lowerAfter (before text lowered ending : List Char)
    (whole : lowerAfter before text = lowered ++ ending) (own : ∀ d ∈ ending, IsOwnAscii d) :
    ∃ stem matched, text = stem ++ matched ∧ (∀ c ∈ matched, c.toNat < 128) ∧
      matched.map Char.toLower = ending := by
  induction text generalizing before lowered with
  | nil =>
    have none : ending = [] := (List.append_eq_nil_iff.mp whole.symm).2
    exact ⟨[], [], rfl, nofun, none.symm⟩
  | cons c text ih =>
    cases lowered with
    | nil =>
      -- All of the text is matched.
      rw [List.nil_append] at whole
      obtain ⟨ascii, lower⟩ := ascii_of_lowerAfter before (c :: text) (whole ▸ own)
      exact ⟨[], c :: text, rfl, ascii, lower.trans whole⟩
    | cons first lowered =>
      have later (lowered : List Char) (rest : lowerAfter (c :: before) text = lowered ++ ending) :
          ∃ stem matched, c :: text = stem ++ matched ∧ (∀ c ∈ matched, c.toNat < 128) ∧
            matched.map Char.toLower = ending := by
        obtain ⟨stem, matched, same, ascii, lower⟩ := ih (c :: before) lowered rest
        exact ⟨c :: stem, matched, by rw [same]; rfl, ascii, lower⟩
      rcases lowerAfter_cases before c text with ⟨d, same, -⟩ | same
      · exact later lowered (List.cons.inj (same.symm.trans whole)).2
      · have rest : '\u0307' :: lowerAfter (c :: before) text = lowered ++ ending :=
          (List.cons.inj (same.symm.trans whole)).2
        cases lowered with
        | nil =>
          rw [List.nil_append] at rest
          exact absurd (own '\u0307' (rest ▸ List.mem_cons_self ..)) (by decide)
        | cons mark lowered => exact later lowered (List.cons.inj rest).2

end RecordSql.Unicode
