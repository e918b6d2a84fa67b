/-
# Catalogs

A catalog answers which databases a store has, which tables they have, and what the schema of a
table is.  A table is made of the collections that its pattern accepts or, without a pattern, of
those that bear its name up to ASCII case.  Its schema is taken from another catalog, if that has a
flagged entry for the table, and is otherwise inferred from a sample of its collections; then every
placeholder of the pattern becomes a column of text.
-/
import DocTables.Catalog.Error
import DocTables.Catalog.Split
import DocTables.Catalog.TableInfo
import DocTables.Chain.Sample
import DocTables.Config
import DocTables.Pattern.Set

namespace DocTables

/-- The collections of a table. -/
def PatternSet.resolve (patterns : PatternSet) (store : Store) (database table : String) :
    Except CatalogError (List String) := do
  let names ← (store.collections database).mapError .store
  let belongs (name : String) : Bool :=
    if patterns.isMultiTenant table then patterns.accepts table name
    else Text.eqIgnoreCase name table
  match names.filter belongs with
  | [] => throw (.tableNotFound database table)
  | collections => return collections

/-- An entry of another catalog. -/
structure CatalogEntry where
  schema : Schema
  parameters : Dictionary

/-- The parameter that makes an entry count. -/
def CatalogEntry.flag : String := "docdb-metadata-flag"

/-- Whether an entry counts. -/
def CatalogEntry.isFlagged (e : CatalogEntry) : Bool := e.parameters.contains CatalogEntry.flag

/-- A catalog of a store. -/
structure Catalog where
  store : Store
  config : Config
  patterns : PatternSet
  /-- The entries of another catalog; a look-up can fail. -/
  supplemental : String → String → Except String (Option CatalogEntry)
  /-- The greatest number of documents in a sample. -/
  sampleSize : Nat

namespace Catalog

/-- The catalog of a store with a configuration. -/
def ofConfig (store : Store) (config : Config) : Catalog where
  store := store
  config := config
  patterns := .ofText config.globPattern
  supplemental _ _ := .ok none
  sampleSize := config.sampleSize

/-- The databases. -/
def databases (c : Catalog) : Except CatalogError (List String) := c.store.databases.mapError .store

/-- The tables of a database, each once, in the order of their first collections. -/
def tables (c : Catalog) (database : String) : Except CatalogError (List String) := do
  let collections ← (c.store.collections database).mapError .store
  return (collections.map c.patterns.canonicalize).eraseDups

/-- The schema of a flagged entry of the other catalog.  A look-up that fails counts as none. -/
def supplementalSchema? (c : Catalog) (database table : String) : Option Schema :=
  match c.supplemental database table with
  | .ok (some entry) => if entry.isFlagged then some entry.schema else none
  | _ => none

/-- The schema of a table after its sample: with a column for each placeholder and the name of the
table. -/
def complete (c : Catalog) (table : String) (schema : Schema) : Schema :=
  let columns := (c.patterns.placeholders table).map fun name => Column.ofKind name .string
  (columns.foldl Schema.upsert schema).withMetadata Schema.sourceTableKey table

/-- The schema of a table from a sample of its collections. -/
def inferredSchema (c : Catalog) (ledger : Ledger) (database table : String) :
    Except CatalogError Schema × Ledger :=
  match c.patterns.resolve c.store database table with
  | .error e => (.error e, ledger)
  | .ok collections =>
    let query : Query := ⟨none, none, some c.config.sampleSize⟩
    let chain := Chain.ofStore c.store database query collections ledger
    let (inferred, ledger) := chain.inferSchema c.sampleSize
    ((inferred.mapError .cursor).map (c.complete table), ledger)

/-- What is known about a table, and the cursors opened and closed to find it out. -/
def table (c : Catalog) (ledger : Ledger) (database name : String) :
    Except CatalogError TableInfo × Ledger :=
  match c.supplementalSchema? database name with
  | some schema => (.ok ⟨database, name, schema, .supplemental⟩, ledger)
  | none =>
    let (schema, ledger) := c.inferredSchema ledger database name
    (schema.map fun s => ⟨database, name, s, .inferred⟩, ledger)

/-- The splits of a table: one, with the connection of the catalog of this name. -/
def splits (c : Catalog) (id : SplitId) (catalog : String) : Except CatalogError (List Split) :=
  match c.config.connection? catalog with
  | some connection => .ok [.ofConnection id connection]
  | none => .error (.missingConnection catalog)

end Catalog

end DocTables
