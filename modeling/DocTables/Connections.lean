/-
# Connections that are kept

Opening a store is costly, so one handle is kept for every connection text.  A handle that is kept
is checked before it is given out again; if it no longer answers, a new one is made and kept in its
place.  A handle that cannot be made changes nothing.
-/
import DocTables.Fields
import DocTables.Store.Error

namespace DocTables

/-- The handles that are kept, under their connection texts. -/
structure Connections (α : Type) where
  handles : Fields α

/-- How a request for a handle has been met. -/
inductive Connections.Reply (α : Type) where
  /-- The handle was kept, and it answers. -/
  | kept (handle : α)
  /-- A handle had to be made, which may have failed. -/
  | made (result : Except StoreError α)

namespace Connections

variable {α : Type}

/-- The handle that a request yields. -/
def Reply.result : Reply α → Except StoreError α
  | .kept handle => .ok handle
  | .made result => result

/-- No handles. -/
def empty : Connections α := ⟨.empty⟩

instance : Inhabited (Connections α) := ⟨empty⟩

/-- The number of connection texts with a handle. -/
def size (c : Connections α) : Nat := c.handles.size

/-- Whether no handle is kept. -/
def isEmpty (c : Connections α) : Bool := c.handles.isEmpty

/-- The handle that is kept for a connection text. -/
def get? (c : Connections α) (connection : String) : Option α := c.handles.get? connection

/-- Keep a handle for a connection text, in the place of the one that has been kept. -/
def insert (c : Connections α) (connection : String) (handle : α) : Connections α :=
  ⟨c.handles.insert connection handle⟩

/-- Ask for a handle at a moment at which some handles answer and `connect` makes new ones. -/
def request (c : Connections α) (answers : α → Bool) (connect : String → Except StoreError α)
    (connection : String) : Reply α × Connections α :=
  match (c.get? connection).filter answers with
  | some handle => (.kept handle, c)
  | none =>
    let result := connect connection
    (.made result,
      match result with
      | .ok handle => c.insert connection handle
      | .error _ => c)

end Connections

end DocTables
