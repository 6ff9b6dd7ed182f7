/-!
Sets of code points as ascending spans. A property of characters is a list of spans, and a look-up
stops at the first span that begins beyond the code point.
-/

namespace RecordSql.Unicode

/-- The code points from `first` to `last`. -/
structure Span where
  first : Nat
  last : Nat

/-- The code points `first`, `first + step`, … up to `last`. -/
structure Stride where
  first : Nat
  last : Nat
  step : Nat

/-- A stride of letters, and the code point that the first of them is mapped to. The others are
mapped at the same distance. -/
structure LetterMap where
  first : Nat
  last : Nat
  step : Nat
  image : Nat

def inSpans (code : Nat) : List Span → Bool
  | [] => false
  | span :: spans => if code < span.first then false else code ≤ span.last || inSpans code spans

def inStrides (code : Nat) : List Stride → Bool
  | [] => false
  | stride :: strides =>
      if code < stride.first then false
      else
        (code ≤ stride.last && (code - stride.first) % stride.step == 0) || inStrides code strides

/-- The image of a code point under the maps, if one of them holds it. -/
def imageIn? (code : Nat) : List LetterMap → Option Nat
  | [] => none
  | letters :: maps =>
      if code < letters.first then none
      else if code ≤ letters.last && (code - letters.first) % letters.step == 0 then
        some (letters.image + (code - letters.first))
      else imageIn? code maps

end RecordSql.Unicode
