/-
# What can go wrong in a store

An error names its cause; `StoreError.message` words it.
-/

namespace DocTables

/-- Why a line of a collection file is no document. -/
inductive LineFault where
  /-- The line is not JSON. -/
  | malformed
  /-- The line is JSON but no document; the text says what it is. -/
  | noDocument (message : String)
deriving Repr, DecidableEq

/-- Why a store did not answer. -/
inductive StoreError where
  | connectionFailed (reason : String)
  | databaseNotFound (database : String)
  | collectionNotFound (database collection : String)
  | queryFailed (reason : String)
  /-- A line of a file could not be decoded; lines are counted from one. -/
  | undecodable (path : String) (line : Nat) (fault : LineFault)
  /-- The cursor on a collection could not be released. -/
  | closeFailed (collection : String)
  /-- A line of a file is no text. -/
  | notText (path : String)
deriving Repr, DecidableEq

/-- The wording for text that should be JSON. -/
def malformedJson : String := "malformed JSON text"

/-- The wording of a fault. -/
def LineFault.message : LineFault → String
  | .malformed => malformedJson
  | .noDocument message => message

/-- The wording of an error. -/
def StoreError.message : StoreError → String
  | .connectionFailed reason => "Connection failed: " ++ reason
  | .databaseNotFound database => "Database not found: " ++ database
  | .collectionNotFound database collection =>
    "Collection not found: " ++ database ++ "." ++ collection
  | .queryFailed reason => "Query failed: " ++ reason
  | .undecodable path line fault =>
    "Parse error: " ++ path ++ ":" ++ Nat.repr line ++ ": " ++ fault.message
  | .closeFailed collection =>
    "Close failed: cursor on " ++ collection ++ " could not be released"
  | .notText path => "IO error: Failed to read " ++ path ++ ": stream did not contain valid UTF-8"

end DocTables
