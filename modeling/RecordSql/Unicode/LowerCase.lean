import RecordSql.Unicode.CaseTable
import RecordSql.Unicode.CaseContext

/-!
Lower case of texts. Every character is mapped by itself except the capital sigma, which becomes a
final sigma at the end of a word.
-/

namespace RecordSql.Unicode

def lowerChar (c : Char) : List Char :=
  if c = '\u0130' then ['i', '\u0307']
  else match imageIn? c.toNat lowerCaseMaps with
    | some code => [Char.ofNat code]
    | none => [c]

def changesInLowerCase (c : Char) : Bool := lowerChar c != [c]

def changesInUpperCase (c : Char) : Bool := inStrides c.toNat upperCaseChanges

def isCased (c : Char) : Bool := inSpans c.toNat casedSpans

def isCaseIgnorable (c : Char) : Bool := inSpans c.toNat caseIgnorableSpans

/-- Whether the first character that is not passed over has a case. -/
def meetsCased : List Char → Bool
  | [] => false
  | c :: text => if isCaseIgnorable c then meetsCased text else isCased c

/-- The lower case of a capital sigma between `before`, nearest character first, and `after`: final
if a cased character comes before it and none after. -/
def lowerSigma (before after : List Char) : Char :=
  if meetsCased before && !meetsCased after then 'ς' else 'σ'

/-- Lower case of a text that follows the characters `before`, the nearest of them first. -/
def lowerAfter (before : List Char) : List Char → List Char
  | [] => []
  | c :: after =>
      (if c = 'Σ' then [lowerSigma before after] else lowerChar c) ++ lowerAfter (c :: before) after

def lowerText (text : List Char) : List Char := lowerAfter [] text

end RecordSql.Unicode
