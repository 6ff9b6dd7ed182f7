import RecordSql.Json.Record
import RecordSql.Json.Writer

/-!
Options of a compilation. They are read from a record that holds no other keys.
-/

namespace RecordSql
open Json (Fault Shape Value)

structure CompileOptions where
  /-- Whether every table gets the columns of the default model and its update trigger. -/
  useDefaultModel : Bool := true
deriving DecidableEq

namespace CompileOptions

structure Draft where
  useDefaultModel : Option Bool := none

def shape : Shape Draft CompileOptions where
  name := "CompileOptions"
  fields :=
    [.of "use_default_model" false Draft.useDefaultModel
       (fun value _ => { useDefaultModel := some value }) Json.boolean]
  isClosed := true
  start := {}
  finish draft := .ok { useDefaultModel := draft.useDefaultModel.getD true }

def ofText (text : String) : Except Fault CompileOptions :=
  Json.document (Json.record (fun _ => shape)) text

def toJson (options : CompileOptions) : Value :=
  .object [("use_default_model", .boolean options.useDefaultModel)]

end CompileOptions

end RecordSql
