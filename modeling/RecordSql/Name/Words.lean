import RecordSql.Name.Cluster

/-!
Words of a name, and the name in lower case with underscores between its words. Delimiters separate
words and are dropped; a capital starts a word after a lower-case letter or a digit, and the last
capital of a run starts one before a lower-case letter. Digits stay with what stands before them.
-/

namespace RecordSql.Name
open Unicode

/-- Whether a word ends between a cluster and those that follow it. -/
def endsWordBefore (cluster : Cluster) : List Cluster → Bool
  | [] => false
  | next :: rest =>
      next.isUpper &&
        (cluster.isLower || cluster.isDigit || (cluster.isUpper && rest.head?.any Cluster.isLower))

/-- The first word of a name and the words after it. Words may be empty. -/
def splitWords : List Cluster → List Char × List (List Char)
  | [] => ([], [])
  | cluster :: rest =>
      let (word, words) := splitWords rest
      if cluster.isDelimiter then ([], word :: words)
      else if endsWordBefore cluster rest then (cluster.text, word :: words)
      else (cluster.text ++ word, words)

def words (text : List Char) : List (List Char) :=
  let (word, rest) := splitWords (clusters text)
  word :: rest

/-- The lower-case words of a text with underscores between them. -/
def snakeText (text : List Char) : List Char := ['_'].intercalate ((words text).map lowerText)

/-- A name in lower case with underscores between its words. -/
def snakeCase (name : String) : String := String.ofList (snakeText name.toList)

end RecordSql.Name
