import RecordSql.Decimal.Binary64

/-!
The fewest decimal digits that identify a binary number. The decimals that read back as the number
lie between the midpoints to its two neighbours; the grids of one, two, … digits are tried in turn
until one has a point between them.
-/

namespace RecordSql.Decimal

/-- The value `digits * 10 ^ exponent`. -/
structure Scaled where
  digits : Nat
  exponent : Int
deriving DecidableEq

/-- Which of two equally near decimals is taken. -/
inductive Tie where
  | toEven
  | upwards
deriving DecidableEq

/-- Compares `digits * 10 ^ exponent` with `count * 2 ^ power`. -/
def compareValues (digits : Nat) (exponent : Int) (count : Nat) (power : Int) : Ordering :=
  compare (digits * Nat.pow 10 exponent.toNat * Nat.pow 2 (-power).toNat)
    (count * Nat.pow 2 power.toNat * Nat.pow 10 (-exponent).toNat)

/-- Whether a decimal is nearer to `significand * 2 ^ power` than to its neighbours. The midpoints
belong to an even significand. Below a power of two the neighbour is half as far away. -/
def readsBack (significand : Nat) (power : Int) (decimal : Scaled) : Bool :=
  let narrow := significand == Nat.pow 2 52 && -1074 < power
  let low := if narrow then 4 * significand - 1 else 4 * significand - 2
  let aboveLow := compareValues decimal.digits decimal.exponent low (power - 2)
  let belowHigh := compareValues decimal.digits decimal.exponent (4 * significand + 2) (power - 2)
  let even := significand % 2 == 0
  (aboveLow == .gt || (even && aboveLow == .eq)) && (belowHigh == .lt || (even && belowHigh == .eq))

/-- The least `scale` with `significand * 2 ^ power < 10 ^ scale`, searched upwards from a bound
below it. -/
def decimalScale (significand : Nat) (power : Int) : Int :=
  let bits : Int := (Nat.log2 significand : Int) + power
  let guess : Int := bits * 30103 / 100000
  if compareValues 1 guess significand power == .gt then guess
  else if compareValues 1 (guess + 1) significand power == .gt then guess + 1
  else guess + 2

/-- The point of the grid `10 ^ exponent` that reads back as the number and is nearest to it. -/
def onGrid? (tie : Tie) (significand : Nat) (power exponent : Int) : Option Scaled :=
  let lower := significand * Nat.pow 2 power.toNat * Nat.pow 10 (-exponent).toNat /
    (Nat.pow 10 exponent.toNat * Nat.pow 2 (-power).toNat)
  let below : Scaled := ⟨lower, exponent⟩
  let above : Scaled := ⟨lower + 1, exponent⟩
  match readsBack significand power below, readsBack significand power above with
  | false, false => none
  | true, false => some below
  | false, true => some above
  | true, true =>
      match compareValues (2 * lower + 1) exponent (2 * significand) power with
      | .gt => some below
      | .lt => some above
      | .eq => if tie = .toEven && lower % 2 == 0 then some below else some above

/-- Moves the zeros at the end of the digits into the exponent. -/
def stripZeros : Nat → Scaled → Scaled
  | 0, decimal => decimal
  | steps + 1, decimal =>
      if decimal.digits % 10 == 0 then stripZeros steps ⟨decimal.digits / 10, decimal.exponent + 1⟩
      else decimal

/-- The decimal expansion of a binary number in full. -/
def exactly (significand : Nat) (power : Int) : Scaled :=
  ⟨significand * Nat.pow 2 power.toNat * Nat.pow 5 (-power).toNat, -((-power).toNat : Int)⟩

/-- The shortest decimal that reads back as `significand * 2 ^ power`, without zeros at its end.
Seventeen digits are enough for every number. -/
def shortest (tie : Tie) (significand : Nat) (power : Int) : Scaled :=
  if significand == 0 then ⟨0, 0⟩
  else
    let scale := decimalScale significand power
    let found :=
      (List.range 17).findSome? (fun count =>
        onGrid? tie significand power (scale - (count + 1 : Nat)))
    stripZeros 20 (found.getD (exactly significand power))

end RecordSql.Decimal
