import RecordSql.Unicode.LowerCase
import RecordSql.Unicode.Joining

/-!
The units in which a name is read: characters that stay together, such as a letter and its marks. A
cluster is upper or lower only as a whole, so a letter whose marks have another case is neither.
-/

namespace RecordSql.Name
open Unicode

/-- A character and those after it that stay with it. -/
structure Cluster where
  first : Char
  others : List Char
deriving DecidableEq

namespace Cluster

def text (cluster : Cluster) : List Char := cluster.first :: cluster.others

/-- Upper case leaves the cluster as it is and lower case does not. -/
def isUpper (cluster : Cluster) : Bool :=
  cluster.text.all (fun c => !changesInUpperCase c) && cluster.text.any changesInLowerCase

/-- Lower case leaves the cluster as it is and upper case does not. -/
def isLower (cluster : Cluster) : Bool :=
  cluster.text.all (fun c => !changesInLowerCase c) && cluster.text.any changesInUpperCase

def isDigit (cluster : Cluster) : Bool := cluster.text.all Char.isDigit

/-- An underscore, hyphen or space by itself separates words. -/
def isDelimiter (cluster : Cluster) : Bool :=
  cluster.others.isEmpty && (cluster.first == '_' || cluster.first == '-' || cluster.first == ' ')

end Cluster

/-- The rest of the cluster before a text, and the clusters after it. -/
def restAndClusters (seam : Seam) : List Char → List Char × List Cluster
  | [] => ([], [])
  | c :: text =>
      let kind := joining c
      let (rest, later) := restAndClusters (seam.next kind) text
      if seam.joins kind then (c :: rest, later) else ([], ⟨c, rest⟩ :: later)

/-- The clusters of a text. -/
def clusters (text : List Char) : List Cluster := (restAndClusters .front text).2

end RecordSql.Name
