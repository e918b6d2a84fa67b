/-
# Schemas as JSON

A schema is an object with its columns and, if there is any, its metadata.
-/
import DocTables.Schema
import DocTables.Column.Json
import DocTables.Json.Record

namespace DocTables.Schema

/-- A schema as JSON. -/
def toJson (s : Schema) : Json :=
  .object (("columns", .array (s.columns.map Column.toJson)) ::
    (if s.metadata.isEmpty then [] else [("metadata", Json.ofDictionary s.metadata)]))

/-- The schema that JSON text describes, with `depth` brackets left to open.  Column names are taken
as they stand, also where one stands twice. -/
def ofDraft? (depth : Nat) (d : Json.Draft) : Option Schema := do
  match depth, ← d.fields? ["columns", "metadata"] with
  | depth + 1, [some columns, metadata] =>
    let columns ← Column.listOfJson? (← columns.value? depth)
    let metadata ← Json.orDefault .empty Json.Draft.dictionary? metadata
    return ⟨columns, metadata⟩
  | _, _ => none

/-- The schema that JSON text describes. -/
def parse? (text : String) : Option Schema := do ofDraft? Json.maxDepth (← Json.Draft.parse? text)

end DocTables.Schema
