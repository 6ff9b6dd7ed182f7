import RecordSql.Json.Fault

/-!
Why a compilation fails.
-/

namespace RecordSql

inductive Error where
  | schemaText (fault : Json.Fault)
  | batchText (fault : Json.Fault)
  | unknownKind (name kind : String)
  | unsupportedReference (type field form : String)
  | missingArgument (type field directive : String)
  | emptyBatch (entity : String)
deriving DecidableEq

def Error.message : Error → String
  | schemaText fault => "Invalid schema JSON: " ++ fault.message
  | batchText fault => "Invalid record batch JSON: " ++ fault.message
  | unknownKind name kind => "Unknown definition kind '" ++ kind ++ "' for type '" ++ name ++ "'"
  | unsupportedReference type field form =>
      "Unsupported type reference '" ++ form ++ "' on field " ++ type ++ "." ++ field
  | missingArgument type field directive =>
      "Directive '@" ++ directive ++ "' on field " ++ type ++ "." ++ field ++
        " is missing its 'value' argument"
  | emptyBatch entity => "Record batch for '" ++ entity ++ "' is empty"

end RecordSql
