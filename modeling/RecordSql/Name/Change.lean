/-!
Changes at the end of a word. The length of a cut is counted in bytes of UTF-8, and a cut is made
only between characters.
-/

namespace RecordSql.Name

/-- How a word turns into its plural or singular. -/
inductive Change where
  | keep
  /-- Another word takes its place. -/
  | become (word : String)
  /-- The last `bytes` bytes give way to `ending`. -/
  | cut (bytes : Nat) (ending : String)
deriving DecidableEq

/-- The number of bytes of a text. -/
def byteLength : List Char → Nat
  | [] => 0
  | c :: text => c.utf8Size + byteLength text

/-- The first `bytes` bytes of a text, if they end between characters. -/
def takeBytes? : Nat → List Char → Option (List Char)
  | 0, _ => some []
  | _ + 1, [] => none
  | bytes + 1, c :: text =>
      if c.utf8Size ≤ bytes + 1 then (takeBytes? (bytes + 1 - c.utf8Size) text).map (c :: ·)
      else none

/-- A text without its last `bytes` bytes, if the cut falls between characters. -/
def dropEndBytes? (bytes : Nat) (text : List Char) : Option (List Char) :=
  if bytes ≤ byteLength text then takeBytes? (byteLength text - bytes) text else none

/-- A cut that would divide a character is not made. -/
def Change.apply (change : Change) (word : List Char) : List Char :=
  match change with
  | .keep => word
  | .become other => other.toList
  | .cut bytes ending => (dropEndBytes? bytes word).getD word ++ ending.toList

end RecordSql.Name
