/-
# Configuration

A configuration names the patterns for collections, how many documents are sampled and fetched,
whether fields are looked up as they are written, and the connections of catalogs.  Environment
variables override single settings; a number that cannot be read changes nothing.
-/
import DocTables.Dictionary
import DocTables.Inference.Sample
import DocTables.Text.Blank
import DocTables.Text.Numeral

namespace DocTables

/-- The settings. -/
structure Config where
  /-- The collection patterns, with semicolons between them. -/
  globPattern : String
  /-- The number of documents sampled for a schema. -/
  sampleSize : Nat
  /-- The number of documents fetched at a time. -/
  batchSize : Nat
  /-- Whether scans read whole documents and look up fields under their exact names. -/
  disableProjectionAndCasing : Bool
  /-- The connection of a catalog that has none of its own. -/
  defaultConnection : Option String
  /-- The connections of catalogs. -/
  catalogs : Dictionary
deriving DecidableEq

namespace Config

/-- The batch size where none is configured. -/
def defaultBatchSize : Nat := 100

/-- The configuration where nothing is configured. -/
def default : Config := ⟨"", Sample.defaultSize, defaultBatchSize, false, none, .empty⟩

instance : Inhabited Config := ⟨default⟩

/-- The variable for the collection patterns. -/
def globPatternVariable : String := "GLOB_PATTERN"

/-- The variable for the sample size. -/
def sampleSizeVariable : String := "SCHEMA_INFERENCE_NUM_DOCS"

/-- The variable for the batch size. -/
def batchSizeVariable : String := "MONGO_QUERY_BATCH_SIZE"

/-- The variable that turns projection and case-insensitive lookup off. -/
def casingVariable : String := "disable_projection_and_casing"

/-- The variable for the default connection. -/
def connectionVariable : String := "default_docdb"

/-- All variables, in the order in which they are applied. -/
def variableNames : List String :=
  [globPatternVariable, sampleSizeVariable, batchSizeVariable, casingVariable, connectionVariable]

/-- Override a setting by a variable.  Other variables change nothing. -/
def override (c : Config) (name value : String) : Config :=
  let size? := Text.size? (Text.trim value)
  if name = globPatternVariable then { c with globPattern := value }
  else if name = sampleSizeVariable then { c with sampleSize := size?.getD c.sampleSize }
  else if name = batchSizeVariable then { c with batchSize := size?.getD c.batchSize }
  else if name = casingVariable then
    { c with disableProjectionAndCasing := Text.eqIgnoreCase (Text.trim value) "true" }
  else if name = connectionVariable then { c with defaultConnection := some value }
  else c

/-- Override settings one after another. -/
def overrideAll (c : Config) (overrides : List (String × String)) : Config :=
  overrides.foldl (fun c e => c.override e.1 e.2) c

/-- Override the settings whose variables are set in an environment. -/
def overrideFrom (c : Config) (environment : List (String × String)) : Config :=
  c.overrideAll (variableNames.filterMap fun v => (environment.lookup v).map (v, ·))

/-- The connection of a catalog. -/
def connection? (c : Config) (catalog : String) : Option String :=
  c.catalogs.get? catalog <|> c.defaultConnection

end Config

end DocTables
