import RecordSql.Json.Cursor
import RecordSql.Json.Value

/-!
Numbers of JSON. A number without fraction and exponent is an integer as far as 64 bits reach, and
otherwise a float. Negative zero is a float.
-/

namespace RecordSql.Json.Number

/-- The digits and the exponent of a number as they stand in the text. -/
structure Parts where
  isNegative : Bool
  whole : List Char
  fraction : Option (List Char)
  exponent : Option Int

/-- Reads one or more digits. A text that ends here has the fault `atEnd`. -/
def digits (atEnd : Fault) : Reader (List Char)
  | [] => .error atEnd
  | c :: text =>
      if c.isDigit then .ok (c :: text.takeWhile Char.isDigit, text.dropWhile Char.isDigit)
      else .error .invalidNumber

/-- Reads the digits before the point. A zero stands alone. -/
def wholeDigits (atEnd : Fault) (text : List Char) : Except Fault (List Char × List Char) := do
  let (whole, rest) ← digits atEnd text
  if whole.head? = some '0' && 1 < whole.length then .error .invalidNumber else .ok (whole, rest)

def fractionDigits (atEnd : Fault) : Reader (Option (List Char))
  | '.' :: text => do
      let (fraction, rest) ← digits atEnd text
      .ok (some fraction, rest)
  | text => .ok (none, text)

/-- Reads the sign and the digits of an exponent. -/
def signedDigits (atEnd : Fault) (text : List Char) : Except Fault (Int × List Char) := do
  let isNegative := text.head? = some '-'
  let unsigned := if text.head? = some '-' || text.head? = some '+' then text.tail else text
  let (exponent, rest) ← digits atEnd unsigned
  let value : Int := Nat.ofDigitChars 10 exponent 0
  .ok (if isNegative then -value else value, rest)

def exponentPart (atEnd : Fault) (text : List Char) : Except Fault (Option Int × List Char) :=
  if text.head? = some 'e' || text.head? = some 'E' then do
    let (exponent, rest) ← signedDigits atEnd text.tail
    .ok (some exponent, rest)
  else .ok (none, text)

/-- Reads a number as far as its grammar goes. -/
def parts (atEnd : Fault) (text : List Char) : Except Fault (Parts × List Char) := do
  let isNegative := text.head? = some '-'
  let (whole, rest) ← wholeDigits atEnd (if isNegative then text.tail else text)
  let (fraction, rest) ← fractionDigits atEnd rest
  let (exponent, rest) ← exponentPart atEnd rest
  .ok (⟨isNegative, whole, fraction, exponent⟩, rest)

def floatValue (isNegative : Bool) (digits : List Char) (exponent : Int) : Except Fault Value :=
  match Binary64.ofDecimal? isNegative (Nat.ofDigitChars 10 digits 0) exponent with
  | some number => .ok (.float number)
  | none => .error .numberOutOfRange

def Parts.value (number : Parts) : Except Fault Value :=
  match number.fraction, number.exponent with
  | none, none =>
      let count := Nat.ofDigitChars 10 number.whole 0
      if number.isNegative then
        if 0 < count && count ≤ UInt64.size / 2 then .ok (.integer (-count))
        else floatValue true number.whole 0
      else if count < UInt64.size then .ok (.integer count)
      else floatValue false number.whole 0
  | fraction, exponent =>
      let decimals := fraction.getD []
      floatValue number.isNegative (number.whole ++ decimals) (exponent.getD 0 - decimals.length)

/-- Reads a number that begins with a minus sign or a digit. -/
def read : Reader Value := fun text => do
  let (number, rest) ← parts .endInValue text
  let value ← number.value
  .ok (value, rest)

/-- Passes over a number that nobody reads. -/
def skip (text : List Char) : Except Fault (List Char) := do
  let (_, rest) ← parts .invalidNumber text
  .ok rest

end RecordSql.Json.Number
