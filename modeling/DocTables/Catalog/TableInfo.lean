/-
# Tables

What a catalog knows about a table: its names, its schema and where the schema comes from.
-/
import DocTables.Schema.Json

namespace DocTables

/-- Where a schema comes from. -/
inductive SchemaSource where
  /-- Another catalog vouches for it. -/
  | supplemental
  /-- It has been inferred from a sample. -/
  | inferred
deriving Repr, DecidableEq

namespace SchemaSource

/-- The name of a source. -/
def name : SchemaSource → String
  | .supplemental => "supplemental"
  | .inferred => "inferred"

/-- The source of a name. -/
def named? (s : String) : Option SchemaSource :=
  [supplemental, inferred].find? (·.name == s)

/-- The source that JSON text names, as a text or as the only member of an object. -/
def ofDraft? : Json.Draft → Option SchemaSource
  | .string (some s) => named? s
  | .object [(some s, .null)] => named? s
  | _ => none

end SchemaSource

/-- A table with its schema. -/
structure TableInfo where
  database : String
  table : String
  schema : Schema
  source : SchemaSource

namespace TableInfo

/-- A table as JSON. -/
def toJson (t : TableInfo) : Json :=
  .object [("schema_name", .string t.database), ("table_name", .string t.table),
    ("schema", t.schema.toJson), ("source", .string t.source.name)]

/-- The table that JSON text describes. -/
def parse? (text : String) : Option TableInfo := do
  match ← (← Json.Draft.parse? text).fields? ["schema_name", "table_name", "schema", "source"] with
  | [some database, some table, some schema, some source] =>
    return ⟨← database.text?, ← table.text?, ← Schema.ofDraft? (Json.maxDepth - 1) schema,
      ← SchemaSource.ofDraft? source⟩
  | _ => none

end TableInfo

end DocTables
