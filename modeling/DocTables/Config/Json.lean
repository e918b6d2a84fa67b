/-
# Configurations as JSON

A setting that is missing takes its default; one that is there has to be of its kind.
-/
import DocTables.Config
import DocTables.Json.Record

namespace DocTables.Config

/-- The names of the settings, in the order in which they are written. -/
def fieldNames : List String :=
  ["glob_pattern", "sample_size", "batch_size", "disable_projection_and_casing",
   "default_connection", "catalogs"]

/-- A configuration as JSON.  A default connection is written only if there is one. -/
def toJson (c : Config) : Json :=
  let connection := match c.defaultConnection with
    | some connection => [("default_connection", Json.string connection)]
    | none => []
  .object ([("glob_pattern", .string c.globPattern),
      ("sample_size", .number (.integer c.sampleSize)),
      ("batch_size", .number (.integer c.batchSize)),
      ("disable_projection_and_casing", .bool c.disableProjectionAndCasing)] ++ connection ++
    [("catalogs", Json.ofDictionary c.catalogs)])

/-- The connection that JSON text describes; null stands for none. -/
def connectionOfDraft? : Json.Draft → Option (Option String)
  | .null => some none
  | d => d.text?.map some

/-- The configuration that JSON text describes. -/
def parseJson? (text : String) : Option Config := do
  match ← (← Json.Draft.parse? text).fields? fieldNames with
  | [pattern, sample, batch, casing, connection, catalogs] =>
    let pattern ← Json.orDefault default.globPattern Json.Draft.text? pattern
    let sample ← Json.orDefault default.sampleSize Json.Draft.size? sample
    let batch ← Json.orDefault default.batchSize Json.Draft.size? batch
    let casing ← Json.orDefault default.disableProjectionAndCasing Json.Draft.bool? casing
    let connection ← Json.orDefault default.defaultConnection connectionOfDraft? connection
    let catalogs ← Json.orDefault default.catalogs Json.Draft.dictionary? catalogs
    return ⟨pattern, sample, batch, casing, connection, catalogs⟩
  | _ => none

end DocTables.Config
