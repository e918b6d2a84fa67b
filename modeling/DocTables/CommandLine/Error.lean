/-
# What can go wrong in a command

An error is shown with all of its causes, each after the one that it causes.
-/
import DocTables.CommandLine.LinePrinter
import DocTables.Config.Toml
import DocTables.Scan

namespace DocTables

/-- Why a command failed. -/
inductive CommandError where
  /-- Neither an option nor the configuration gives the connection of the catalog. -/
  | noConnection (catalog : String)
  | invalidFilter (reason : String)
  /-- The limit is zero. -/
  | limitNotPositive
  | config (cause : ConfigError)
  | store (cause : StoreError)
  | catalog (cause : CatalogError)
  | scan (cause : ScanError)
  | output (cause : OutputError)
deriving Repr, DecidableEq

/-- The wording of the error in a store behind an error of a cursor. -/
def CursorError.causes : CursorError → List String
  | .openFailed _ cause | .readFailed _ cause | .closeFailed _ cause => [cause.message]
  | .exhausted => []

/-- The wording of what is behind an error of a catalog. -/
def CatalogError.causes : CatalogError → List String
  | .cursor cause => cause.causes
  | _ => []

/-- The wording of what is behind an error of a scan. -/
def ScanError.causes : ScanError → List String
  | .field _ reason => [reason]
  | .cursor cause => cause.causes
  | .catalog cause => cause.causes

namespace CommandError

/-- The wording of an error and of its causes. -/
def messages : CommandError → List String
  | .noConnection name =>
    ["No connection configured for catalog " ++ name ++
      ". Pass --root or set default_connection."]
  | .invalidFilter reason => ["Invalid filter: " ++ reason]
  | .limitNotPositive => ["Invalid argument: --limit must be positive"]
  | .config cause => ["Config error: " ++ cause.message, cause.message]
  | .store cause => ["Store error: " ++ cause.message, cause.message]
  | .catalog cause => ("Metadata error: " ++ cause.message) :: cause.message :: cause.causes
  | .scan cause => ("Scan error: " ++ cause.message) :: cause.message :: cause.causes
  | .output cause => ["IO error: " ++ cause.message]

/-- The line that reports an error, given what could not be done. -/
def report (e : CommandError) (task : String) : String :=
  "Error: " ++ ": ".intercalate (task :: e.messages)

end CommandError

end DocTables
