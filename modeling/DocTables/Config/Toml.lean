/-
# Configuration files

A configuration is kept in a TOML file of a fixed name.  A setting that is missing takes its
default, one that is there has to be of its kind, and names that are no settings are passed over.  A
folder without the file stands for the default configuration.
-/
import DocTables.Config.Json
import DocTables.Files
import DocTables.Toml.Printer

namespace DocTables

/-- Why a configuration was not read or written. -/
inductive ConfigError where
  /-- The file is not TOML, or a setting is not of its kind. -/
  | malformed
  /-- A size is too large to be written. -/
  | unwritable
  /-- The file is no text. -/
  | unreadable
  /-- The file cannot be made. -/
  | unsaved
deriving Repr, DecidableEq

/-- The wording of an error. -/
def ConfigError.message : ConfigError → String
  | .malformed => "Config error: Failed to parse config: malformed TOML text"
  | .unwritable => "Serialization error: Failed to serialize config: out-of-range value"
  | .unreadable => "IO error: Failed to read config: stream did not contain text"
  | .unsaved => "IO error: Failed to write config: no such folder"

namespace Config

/-! ## 1. Reading -/

/-- The key under which a date or time stands where texts under keys are expected. -/
def momentKey : String := "$__toml_private_datetime"

/-- The texts under keys that a TOML value stands for. -/
def dictionaryOf? : Toml → Option Dictionary
  | .table entries => do
    return .ofList (← entries.mapM fun (key, value) => value.text?.map (key, ·))
  | .moment text => some (.ofList [(momentKey, text)])
  | _ => none

/-- A missing setting takes its default; a present one has to be of its kind. -/
def setting? {α : Type} (default : α) (read? : Toml → Option α) (name : String)
    (entries : List (String × Toml)) : Option α :=
  match entries.lookup name with
  | none => some default
  | some value => read? value

/-- The configuration that the entries of a TOML document describe. -/
def ofEntries? (entries : List (String × Toml)) : Option Config := do
  let pattern ← setting? default.globPattern Toml.text? "glob_pattern" entries
  let sample ← setting? default.sampleSize Toml.size? "sample_size" entries
  let batch ← setting? default.batchSize Toml.size? "batch_size" entries
  let casing ← setting? default.disableProjectionAndCasing Toml.bool?
    "disable_projection_and_casing" entries
  let connection ← setting? default.defaultConnection (·.text?.map some)
    "default_connection" entries
  let catalogs ← setting? default.catalogs dictionaryOf? "catalogs" entries
  return ⟨pattern, sample, batch, casing, connection, catalogs⟩

/-- The configuration that a TOML text describes. -/
def parse (text : String) : Except ConfigError Config :=
  match (Toml.parse? text).bind ofEntries? with
  | some config => .ok config
  | none => .error .malformed

/-! ## 2. Writing -/

/-- The settings that stand in front of the catalogs. -/
def scalars (c : Config) : List (String × Toml.Scalar) :=
  [("glob_pattern", .string c.globPattern), ("sample_size", .size c.sampleSize),
    ("batch_size", .size c.batchSize),
    ("disable_projection_and_casing", .boolean c.disableProjectionAndCasing)] ++
  match c.defaultConnection with
  | some connection => [("default_connection", .string connection)]
  | none => []

/-- A configuration as TOML text. -/
def toToml (c : Config) : Except ConfigError String :=
  let catalogs := c.catalogs.entries.map fun e => (e.1, Toml.Scalar.string e.2)
  match Toml.lines? c.scalars, Toml.lines? catalogs with
  | some scalars, some catalogs =>
    .ok (String.ofList (scalars ++ ['\n'] ++ Toml.header "catalogs" ++ catalogs))
  | _, _ => .error .unwritable

/-- A configuration file to start from. -/
def sampleText : String := r##"# Document store connector configuration

# Multi-tenant collection patterns, separated by ';'.
# Each {{name}} placeholder becomes a string column on the logical table.
glob_pattern = "orders_{{tenant}}"

# Documents sampled per table when inferring a schema
sample_size = 10

# Documents fetched per round trip during scans
batch_size = 100

# Disable scan projection and case-insensitive field lookup
disable_projection_and_casing = false

# Connection used when a catalog has no entry below
# default_connection = "/var/lib/docstore"

[catalogs]
# analytics = "/var/lib/docstore/analytics"
"##

/-! ## 3. Files -/

/-- The name of the file. -/
def fileName : String := ".docstore.toml"

/-- Whether a folder has the file. -/
def exists? (files : Files) (folder : String) : Bool := files.exists? (Path.join folder fileName)

/-- The text of the file in a folder; the default configuration if there is none. -/
def read (files : Files) (folder : String) : Except ConfigError Config :=
  if exists? files folder then
    match files.read? (Path.join folder fileName) with
    | none => .error .unreadable
    | some bytes =>
      match String.fromUTF8? ⟨bytes.toArray⟩ with
      | some text => parse text
      | none => .error .unreadable
  else .ok default

/-- The configuration of a folder with the settings that an environment overrides. -/
def load (files : Files) (environment : List (String × String)) (folder : String) :
    Except ConfigError Config :=
  (read files folder).map (·.overrideFrom environment)

/-- The files after a configuration has been written into a folder. -/
def save (c : Config) (files : Files) (folder : String) : Except ConfigError Files := do
  let text ← c.toToml
  match files.write? folder fileName text.toUTF8.toList with
  | some files => return files
  | none => throw .unsaved

end Config

end DocTables
