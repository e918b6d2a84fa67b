/-
# Stores in memory

Databases, collections and documents keep the order of insertion.  The cursors on some collections
fail when they are closed.
-/
import DocTables.Store

namespace DocTables

/-- A store in memory. -/
structure MemoryStore where
  databases : Fields (Fields (List Document))
  /-- The collections whose cursors fail when they are closed. -/
  failingClose : List String

namespace MemoryStore

/-- A store without databases. -/
def empty : MemoryStore := ⟨.empty, []⟩

instance : Inhabited MemoryStore := ⟨empty⟩

/-- Append documents to a collection, which is created if need be. -/
def insertMany (s : MemoryStore) (database collection : String) (documents : List Document) :
    MemoryStore :=
  let collections := (s.databases.get? database).getD .empty
  let documents := (collections.get? collection).getD [] ++ documents
  { s with databases := s.databases.insert database (collections.insert collection documents) }

/-- Make the cursors on a collection fail when they are closed. -/
def failCloseOn (s : MemoryStore) (collection : String) : MemoryStore :=
  { s with failingClose := collection :: s.failingClose }

/-- The collections of a database. -/
def database (s : MemoryStore) (name : String) : Except StoreError (Fields (List Document)) :=
  match s.databases.get? name with
  | some collections => .ok collections
  | none => .error (.databaseNotFound name)

/-- The documents of a list that a query asks for: those that it selects, up to its limit, cut to
its projection. -/
def select (q : Query) (documents : List Document) : List Document :=
  let found := documents.filter q.selects
  (match q.limit with
    | some most => found.take most
    | none => found).map q.shape

theorem select_nil (q : Query) : select q [] = [] := by
  unfold select
  cases q.limit <;> simp

theorem select_of_limit_zero {q : Query} (h : q.limit = some 0) (documents : List Document) :
    select q documents = [] := by
  simp [select, h]

theorem select_unselected {q : Query} {d : Document} (h : ¬q.selects d)
    (documents : List Document) : select q (d :: documents) = select q documents := by
  rw [select, List.filter_cons_of_neg h, select]

/-- A document that is selected is one of those that the limit allows. -/
theorem select_selected {q : Query} (h : q.limit ≠ some 0) {d : Document} (hd : q.selects d)
    (documents : List Document) :
    select q (d :: documents) = q.shape d :: select (q.after 1) documents := by
  unfold select
  rw [List.filter_cons_of_pos hd, Query.limit_after]
  match hl : q.limit with
  | none => rfl
  | some 0 => exact absurd hl h
  | some (n + 1) => rfl

/-- A cursor on a collection. -/
def find (s : MemoryStore) (database collection : String) (q : Query) : Except StoreError Rows := do
  match (← s.database database).get? collection with
  | some documents =>
    return .ofList ((select q documents).map .ok)
      (if s.failingClose.contains collection then some (.closeFailed collection) else none)
  | none => throw (.collectionNotFound database collection)

/-- What the store answers. -/
def toStore (s : MemoryStore) : Store where
  databases := .ok s.databases.keys
  collections database := do return (← s.database database).keys
  find := s.find

end MemoryStore

end DocTables
