import RecordSql.Decimal.Shortest

/-!
Decimal text of binary numbers: the shortest digits, set out positionally or with an exponent.
-/

namespace RecordSql.Decimal

/-- Which digits are chosen and how they are set out. -/
structure Layout where
  tie : Tie
  /-- The decimal exponents of the leading digit that are written without an exponent. -/
  isPositional : Int → Bool
  /-- Whether an integral number is written with a zero after the point. -/
  showsFraction : Bool

/-- Digits with the point after the first `point` of them, filled up with zeros. -/
def positionalText (showsFraction : Bool) (digits : List Char) (point : Int) : List Char :=
  if point ≤ 0 then '0' :: '.' :: (List.replicate (-point).toNat '0' ++ digits)
  else if digits.length ≤ point.toNat then
    digits ++ List.replicate (point.toNat - digits.length) '0' ++
      (if showsFraction then ['.', '0'] else [])
  else digits.take point.toNat ++ '.' :: digits.drop point.toNat

/-- Digits with the point after the first, and the exponent of that digit with its sign. -/
def scientificText (digits : List Char) (exponent : Int) : List Char :=
  digits.take 1 ++ (if digits.length ≤ 1 then [] else '.' :: digits.drop 1) ++
    'e' :: (if exponent < 0 then '-' else '+') :: Nat.toDigits 10 exponent.natAbs

/-- The text of a decimal without a sign. -/
def Layout.magnitudeText (layout : Layout) (decimal : Scaled) : List Char :=
  let digits := Nat.toDigits 10 decimal.digits
  let exponent := decimal.exponent + digits.length - 1
  if layout.isPositional exponent then positionalText layout.showsFraction digits (exponent + 1)
  else scientificText digits exponent

/-- The text of a number. Negative zero keeps its sign; what is not a number has none. -/
def Layout.text (layout : Layout) (number : Binary64) : List Char :=
  let sign := if number.isNegative then ['-'] else []
  match number.magnitude with
  | .nan => "NaN".toList
  | .infinite => sign ++ "inf".toList
  | .finite significand power =>
      sign ++ layout.magnitudeText (shortest layout.tie significand power)

/-- Numbers without an exponent, integral ones without a point. A tie goes away from zero. -/
def plain : Layout := ⟨.upwards, fun _ => true, false⟩

def plainText (number : Binary64) : String := String.ofList (plain.text number)

end RecordSql.Decimal
