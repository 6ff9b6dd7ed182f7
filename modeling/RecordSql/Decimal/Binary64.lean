/-!
Double-precision binary numbers, held as their 64 bits: a sign, eleven bits of exponent and
fifty-two of fraction. A decimal is read by exact arithmetic on naturals and rounded once, to the
nearest number and on a tie to the even one.
-/

namespace RecordSql

structure Binary64 where
  bits : UInt64
deriving DecidableEq

namespace Decimal

/-- The absolute value behind the bits of a number. -/
inductive Magnitude where
  /-- The value `significand * 2 ^ exponent`. -/
  | finite (significand : Nat) (exponent : Int)
  | infinite
  | nan
deriving DecidableEq

/-- The quotient rounded to the nearest natural, on a tie to the even one. -/
def roundedQuotient (numerator denominator : Nat) : Nat :=
  let quotient := numerator / denominator
  let remainder := numerator % denominator
  if 2 * remainder < denominator then quotient
  else if 2 * remainder == denominator && quotient % 2 == 0 then quotient
  else quotient + 1

/-- The largest `power` with `2 ^ power ≤ numerator / denominator`, for positive arguments. -/
def binaryScale (numerator denominator : Nat) : Int :=
  let scale : Int := (Nat.log2 numerator : Int) - Nat.log2 denominator
  if numerator * Nat.pow 2 (-scale).toNat < denominator * Nat.pow 2 scale.toNat then scale - 1
  else scale

end Decimal

namespace Binary64
open Decimal

def exponentBits (number : Binary64) : Nat := number.bits.toNat / Nat.pow 2 52 % Nat.pow 2 11

def fractionBits (number : Binary64) : Nat := number.bits.toNat % Nat.pow 2 52

def isNegative (number : Binary64) : Bool := Nat.pow 2 63 ≤ number.bits.toNat

def magnitude (number : Binary64) : Magnitude :=
  if number.exponentBits == 2047 then if number.fractionBits == 0 then .infinite else .nan
  else if number.exponentBits == 0 then .finite number.fractionBits (-1074)
  else .finite (Nat.pow 2 52 + number.fractionBits) ((number.exponentBits : Int) - 1075)

def isFinite (number : Binary64) : Bool := number.exponentBits != 2047

/-- Whether two numbers are the same value: zero has one value with two signs, and what is not a
number equals nothing. -/
def sameValue (left right : Binary64) : Bool :=
  left.magnitude != .nan &&
    (left == right || (left.magnitude == .finite 0 (-1074) && right.magnitude == .finite 0 (-1074)))

/-- The number with the given sign and the remaining 63 bits. -/
def ofParts (negative : Bool) (rest : Nat) : Binary64 :=
  ⟨UInt64.ofNat (if negative then Nat.pow 2 63 + rest else rest)⟩

/-- The lower 63 bits of the number nearest to a positive quotient. They count the numbers below
it, so a significand that rounds up to the next power of two needs no case of its own. -/
def nearestBits (numerator denominator : Nat) : Nat :=
  let exponent := max (binaryScale numerator denominator - 52) (-1074)
  let significand := roundedQuotient
    (numerator * Nat.pow 2 (-exponent).toNat) (denominator * Nat.pow 2 exponent.toNat)
  (exponent + 1074).toNat * Nat.pow 2 52 + significand

/-- The bits of infinity; finite numbers lie below. -/
def infiniteBits : Nat := 2047 * Nat.pow 2 52

/-- The number nearest to `digits * 10 ^ exponent`, or `none` where that is beyond the finite
numbers. Exponents that decide the result by themselves are not multiplied out. -/
def ofDecimal? (negative : Bool) (digits : Nat) (exponent : Int) : Option Binary64 :=
  if digits == 0 then some (ofParts negative 0)
  else if 310 < exponent then none
  else if exponent + Nat.log2 digits < -400 then some (ofParts negative 0)
  else
    let rest := nearestBits (digits * Nat.pow 10 exponent.toNat) (Nat.pow 10 (-exponent).toNat)
    if rest < infiniteBits then some (ofParts negative rest) else none

end Binary64

end RecordSql
