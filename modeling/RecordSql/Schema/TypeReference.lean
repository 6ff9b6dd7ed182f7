/-!
References to types. Only a named type, required or not, can be stored in a column.
-/

namespace RecordSql

inductive TypeReference where
  | named (name : String)
  | nonNull (inner : TypeReference)
  | list (inner : TypeReference)
deriving DecidableEq

/-- A named type, and whether its values are required. -/
structure TargetType where
  name : String
  nonNull : Bool
deriving DecidableEq

namespace TypeReference

/-- The outermost form of a reference. -/
inductive Form where
  | named
  | nonNull
  | list
deriving DecidableEq

def Form.name : Form → String
  | .named => "NamedType"
  | .nonNull => "NonNullType"
  | .list => "ListType"

/-- All forms in their order of declaration. -/
def Form.all : List Form := [.named, .nonNull, .list]

def form : TypeReference → Form
  | named _ => .named
  | nonNull _ => .nonNull
  | list _ => .list

/-- The type that a column for this reference stores. -/
def target? : TypeReference → Option TargetType
  | named name => some ⟨name, false⟩
  | nonNull (named name) => some ⟨name, true⟩
  | _ => none

end TypeReference

end RecordSql
