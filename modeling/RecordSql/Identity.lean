/-!
Identity values: the seconds since a fixed epoch, with room below them for a random part. The
default of a table's `id` column computes the same from the time of the insertion.
-/

namespace RecordSql.Identity

/-- The epoch in Unix seconds. -/
def epoch : Int := 1563741060

/-- The distance between the identities of successive seconds. It exceeds every random part. -/
def scale : Int := 100000

/-- The identity for a time in Unix seconds and a random part. -/
def atSecond (seconds : Int) (salt : UInt16) : Int := (seconds - epoch) * scale + salt.toNat

end RecordSql.Identity
