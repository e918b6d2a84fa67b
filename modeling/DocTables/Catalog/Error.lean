/-
# What can go wrong in a catalog
-/
import DocTables.Chain

namespace DocTables

/-- Why a catalog did not answer. -/
inductive CatalogError where
  /-- No collection belongs to the table. -/
  | tableNotFound (database table : String)
  /-- The catalog has no connection, and there is no default. -/
  | missingConnection (catalog : String)
  | store (cause : StoreError)
  | cursor (cause : CursorError)
deriving Repr, DecidableEq

/-- The wording of an error. -/
def CatalogError.message : CatalogError → String
  | .tableNotFound database table => "Table not found: " ++ database ++ "." ++ table
  | .missingConnection catalog => "No connection string configured for catalog " ++ catalog
  | .store cause => cause.message
  | .cursor cause => cause.message

end DocTables
