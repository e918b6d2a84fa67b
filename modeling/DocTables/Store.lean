/-
# Document stores

A store lists its databases and the collections in them, and answers queries on a collection with a
cursor.
-/
import DocTables.Store.Rows

namespace DocTables

/-- What a store answers. -/
structure Store where
  /-- The names of the databases. -/
  databases : Except StoreError (List String)
  /-- The names of the collections of a database. -/
  collections : String → Except StoreError (List String)
  /-- A cursor on the documents of a collection. -/
  find : String → String → Query → Except StoreError Rows

end DocTables
