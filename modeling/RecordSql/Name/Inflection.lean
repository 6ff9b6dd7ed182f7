import RecordSql.Name.Change
import RecordSql.Unicode.LowerCase

/-!
Plural and singular of the last word of a name. The change is chosen on the lower-case word and
made on the word as written, so letters that stay keep their case.
-/

namespace RecordSql.Name
open Unicode

/-- Singulars with a plural of their own. -/
def irregularPlurals : List (String × String) :=
  [("person", "persons"), ("child", "children"), ("man", "men"), ("woman", "women"),
   ("mouse", "mice"), ("goose", "geese"), ("foot", "feet"), ("tooth", "teeth"), ("ox", "oxen")]

/-- Plurals with a second spelling. -/
def secondPlurals : List (String × String) := [("people", "person")]

/-- Words that are their own plural. -/
def uncountableWords : List String :=
  ["data", "equipment", "fish", "information", "media", "metadata", "money", "news", "rice",
   "series", "sheep", "species"]

/-- Words in `-fe` with a plural in `-ves`, without that ending. -/
def feStems : List String := ["kni", "li", "wi"]

/-- Words in `-o` with a plural in `-es`. -/
def oWords : List String := ["echo", "hero", "potato", "tomato", "veto"]

/-- Endings of singulars in `-s` with a plural in `-es`. -/
def sEndings : List String := ["alias", "gas", "tlas", "tmas", "ris"]

/-- Stems of words in `-sis` with a plural in `-ses`. -/
def sisStems : List String :=
  ["analy", "diagno", "parenthe", "progno", "synop", "the", "empha", "cri"]

def isOneOf (word : List Char) (others : List String) : Bool :=
  others.any (fun other => other.toList == word)

def endsInOneOf (word : List Char) (endings : List String) : Bool :=
  endings.any (fun ending => ending.toList.isSuffixOf word)

/-- The partner of a word in a list of pairs. -/
def partner? (word : List Char) (pairs : List (String × String)) : Option String :=
  (pairs.find? (fun pair => pair.1.toList == word)).map Prod.snd

/-- The character before the last `count` characters. -/
def beforeEnd? (word : List Char) (count : Nat) : Option Char := word.reverse[count]?

def isVowel (c : Char) : Bool := "aeiou".toList.contains c

/-- Whether a consonant, or any other character but a vowel, stands before the last `count`. -/
def hasConsonantBefore (word : List Char) (count : Nat) : Bool :=
  (beforeEnd? word count).any (fun c => !isVowel c)

/-- How a lower-case word turns into its plural. A word in `-s` that no rule names counts as a
plural already. -/
def pluralChange (word : List Char) : Change :=
  if word.isEmpty || isOneOf word uncountableWords then .keep
  else match partner? word irregularPlurals with
  | some plural => .become plural
  | none =>
    if isOneOf word (irregularPlurals.map Prod.snd) then .keep
    else if isOneOf word (secondPlurals.map Prod.fst) then .keep
    else if endsInOneOf word sEndings then .cut 0 "es"
    else if endsInOneOf word ["is"] && word != "is".toList then .cut 2 "es"
    else if endsInOneOf word ["us", "ss", "sh", "ch", "x", "z"] then .cut 0 "es"
    else if endsInOneOf word ["s"] then .keep
    else if endsInOneOf word ["y"] && hasConsonantBefore word 1 then .cut 1 "ies"
    else if isOneOf word (feStems.map (· ++ "fe")) then .cut 2 "ves"
    else if endsInOneOf word ["lf", "eaf"] then .cut 1 "ves"
    else if isOneOf word oWords then .cut 0 "es"
    else .cut 0 "s"

/-- How a lower-case word turns into its singular. The consonant that `hasConsonantBefore` asks for
before `ies` is a fourth character, also of the word as written, so the rule for that ending needs no
test of the length beside it. -/
def singularChange (word : List Char) : Change :=
  if word.isEmpty || isOneOf word uncountableWords then .keep
  else match partner? word (irregularPlurals.map Prod.swap) with
  | some singular => .become singular
  | none =>
    if isOneOf word (irregularPlurals.map Prod.fst) then .keep
    else match partner? word secondPlurals with
    | some singular => .become singular
    | none =>
      if endsInOneOf word sEndings then .keep
      else if endsInOneOf word (sisStems.map (· ++ "ses")) then .cut 2 "is"
      else if endsInOneOf word (sEndings.map (· ++ "es")) then .cut 2 ""
      else if endsInOneOf word ["ies"] && hasConsonantBefore word 3 then .cut 3 "y"
      else if isOneOf word (feStems.map (· ++ "ves")) then .cut 3 "fe"
      else if endsInOneOf word ["lves", "eaves"] then .cut 3 "f"
      else if isOneOf word (oWords.map (· ++ "es")) then .cut 2 ""
      else if endsInOneOf word ["sses", "shes", "ches", "xes", "zes"] then .cut 2 ""
      else if endsInOneOf word ["uses"] &&
          (beforeEnd? word 4).any (fun c => !"aou".toList.contains c) then .cut 2 ""
      else if endsInOneOf word ["ss", "us", "is"] then .keep
      else if endsInOneOf word ["s"] then .cut 1 ""
      else .keep

def pluralWord (word : List Char) : List Char := (pluralChange (lowerText word)).apply word

def singularWord (word : List Char) : List Char := (singularChange (lowerText word)).apply word

/-- The text up to and with the last underscore, and the word after it. -/
def splitLastWord : List Char → List Char × List Char
  | [] => ([], [])
  | c :: text =>
      let (head, last) := splitLastWord text
      if c == '_' || !head.isEmpty then (c :: head, last) else (head, c :: last)

/-- Changes the last word of a name. A name that ends in an underscore is changed as one word. -/
def inflectLast (inflect : List Char → List Char) (text : List Char) : List Char :=
  let (head, last) := splitLastWord text
  if last.isEmpty then inflect text else head ++ inflect last

def pluralText (text : List Char) : List Char := inflectLast pluralWord text

def singularText (text : List Char) : List Char := inflectLast singularWord text

/-- The plural of the last word of a name. -/
def pluralize (name : String) : String := String.ofList (pluralText name.toList)

/-- The singular of the last word of a name. -/
def singularize (name : String) : String := String.ofList (singularText name.toList)

end RecordSql.Name
