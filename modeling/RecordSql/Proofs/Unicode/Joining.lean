import RecordSql.Proofs.Unicode.LowerCase
import RecordSql.Unicode.Joining

/-!
Marks and prepended signs are no letters: lower case leaves every one of them as it is, and no ASCII
character is one of them.
-/

namespace RecordSql.Unicode

/-- Whether a character stays with the one before it, unless that is a control. -/
def Joining.isMark : Joining → Bool
  | .extending | .joiner | .spacing => true
  | _ => false

def isMark (c : Char) : Bool := (joining c).isMark

def isPrepended (c : Char) : Bool := joining c == .prepended

/-- Whether a character stays with others of every kind, on one of its sides. -/
def Joining.isHolding (kind : Joining) : Bool := kind.isMark || kind == .prepended

/-- Whether ascending spans hold no code point from `first` to `last`. -/
def isApart (first last : Nat) : List Span → Bool
  | [] => true
  | span :: spans =>
      Nat.blt last span.first || (Nat.blt span.last first && isApart first last spans)

theorem inSpans_apart (spans : List Span) (first last code : Nat)
    (apart : isApart first last spans = true) (low : first ≤ code) (high : code ≤ last) :
    inSpans code spans = false := by
  induction spans with
  | nil => rfl
  | cons span spans ih =>
    simp only [isApart, Bool.or_eq_true, Bool.and_eq_true, Nat.blt_eq] at apart
    rw [inSpans]
    split
    · rfl
    · next notBelow =>
      rcases apart with beyond | ⟨above, rest⟩
      · omega
      · rw [ih rest, Bool.or_false, decide_eq_false_iff_not]
        omega

theorem inSpans_of_joining (c : Char) (holding : (joining c).isHolding = true) :
    ∃ entry ∈ joiningSpans, entry.1.isHolding = true ∧ inSpans c.toNat entry.2 = true := by
  unfold joining at holding
  split at holding
  · contradiction
  split at holding
  · next kind spans found =>
    have inside := List.find?_some found
    exact ⟨(kind, spans), List.mem_of_find?_eq_some found, holding, inside⟩
  · contradiction

theorem joining_between (first last : Nat) (c : Char)
    (apart : ∀ entry ∈ joiningSpans, entry.1.isHolding = true → isApart first last entry.2 = true)
    (low : first ≤ c.toNat) (high : c.toNat ≤ last) : (joining c).isHolding = false := by
  rw [Bool.eq_false_iff]
  intro holding
  obtain ⟨entry, member, kind, inside⟩ := inSpans_of_joining c holding
  rw [inSpans_apart entry.2 first last c.toNat (apart entry member kind) low high] at inside
  contradiction

/-- No mark lies between the first and the last letter of a map of the table. -/
theorem lowerCaseMaps_apart : ∀ letters ∈ lowerCaseMaps, ∀ entry ∈ joiningSpans,
    entry.1.isHolding = true → isApart letters.first letters.last entry.2 = true := by
  decide +kernel

theorem isHolding_ascii (c : Char) (ascii : c.toNat < 128) : (joining c).isHolding = false :=
  joining_between 0 127 c (by decide +kernel) (by omega) (by omega)

theorem isMark_ascii (c : Char) (ascii : c.toNat < 128) : isMark c = false :=
  (Bool.or_eq_false_iff.mp (isHolding_ascii c ascii)).1

theorem isLowered_of_isHolding (c : Char) (holding : (joining c).isHolding = true) :
    IsLowered c := by
  apply isLowered_of_unmapped
  · intro same
    subst same
    revert holding
    decide +kernel
  · cases image : imageIn? c.toNat lowerCaseMaps with
    | none => rfl
    | some code =>
      obtain ⟨letters, member, low, high, -⟩ := imageIn?_some _ _ _ image
      rw [joining_between _ _ c (lowerCaseMaps_apart letters member) low high] at holding
      contradiction

theorem isLowered_mark (c : Char) (mark : isMark c = true) : IsLowered c :=
  isLowered_of_isHolding c (Bool.or_eq_true_iff.mpr (Or.inl mark))

theorem isLowered_prepended (c : Char) (prepended : isPrepended c = true) : IsLowered c :=
  isLowered_of_isHolding c (Bool.or_eq_true_iff.mpr (Or.inr prepended))

/-! Characters of no kind, such as the separators of words, are joined by marks and prepended signs
only. -/

namespace Seam

theorem joins_other (seam : Seam) : seam.joins .other = (seam.last == .prepended) := by
  obtain ⟨last, inFlag, inPictograph⟩ := seam
  cases last <;> rfl

theorem other_joins (seam : Seam) (last : seam.last = .other) (kind : Joining) :
    seam.joins kind = kind.isMark := by
  obtain ⟨joined, inFlag, inPictograph⟩ := seam
  cases last
  cases kind <;> rfl

end Seam

/-! An ASCII character stays with the one before it only as the line feed behind a carriage
return. -/

/-- Whether a character is a control or of no kind. -/
def Joining.isSimple : Joining → Bool
  | .other | .control | .carriageReturn | .lineFeed => true
  | _ => false

theorem Seam.simple_joins (seam : Seam) (last : seam.last.isSimple = true) (kind : Joining)
    (simple : kind.isSimple = true) :
    seam.joins kind = (seam.last == .carriageReturn && kind == .lineFeed) := by
  obtain ⟨joined, inFlag, inPictograph⟩ := seam
  cases joined <;> cases kind <;> first | rfl | contradiction

theorem joining_ascii (c : Char) (ascii : c.toNat < 128) :
    (joining c).isSimple = true ∧ (joining c = .carriageReturn → c = '\r') ∧
      (joining c = .lineFeed → c = '\n') :=
  of_ascii (fun c => (joining c).isSimple = true ∧ (joining c = .carriageReturn → c = '\r') ∧
    (joining c = .lineFeed → c = '\n')) (by decide +kernel) c ascii

end RecordSql.Unicode
