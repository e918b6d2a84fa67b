/-
# Cursors on one collection

A cursor holds what it is still going to yield: documents, and errors in place of documents that
could not be read.  A closed cursor yields nothing; closing it again does nothing.

A store can count its cursors (`CursorCounts`).  A cursor counts as closed once, when closing takes
it from open to closed.
-/
import DocTables.Store.Error
import DocTables.Store.Query

namespace DocTables

/-- A document, or why it could not be read. -/
abbrev Row := Except StoreError Document

/-- A cursor on one collection. -/
structure Rows where
  pending : List Row
  /-- How closing fails, if it does. -/
  closeFailure : Option StoreError
  closed : Bool

namespace Rows

/-- A cursor that is open. -/
def ofList (rows : List Row) (closeFailure : Option StoreError) : Rows :=
  ⟨rows, closeFailure, false⟩

/-- What is still to come. -/
def toList (r : Rows) : List Row := if r.closed then [] else r.pending

/-- The next row, and the cursor after it. -/
def next (r : Rows) : Option Row × Rows :=
  match r.toList with
  | [] => (none, r)
  | row :: rest => (some row, { r with pending := rest })

/-- Release the cursor. -/
def close (r : Rows) : Except StoreError Unit × Rows :=
  if r.closed then (.ok (), r)
  else
    let closed := { r with closed := true }
    match r.closeFailure with
    | some e => (.error e, closed)
    | none => (.ok (), closed)

/-- Reading does not close a cursor. -/
theorem closed_next (r : Rows) : r.next.2.closed = r.closed := by
  unfold next
  cases r.toList <;> rfl

theorem closed_close (r : Rows) : r.close.2.closed = true := by
  unfold close
  by_cases h : r.closed = true
  · rw [if_pos h, h]
  · rw [if_neg h]
    cases r.closeFailure <;> rfl

theorem next_eq (r : Rows) : r.next.1 = r.toList.head? := by
  unfold next
  cases r.toList <;> rfl

theorem toList_next (r : Rows) : r.next.2.toList = r.toList.tail := by
  unfold next
  cases h : r.toList with
  | nil => simpa using h
  | cons row rest =>
    unfold toList at h ⊢
    split at h
    · simp at h
    · rename_i hc
      simp [hc]

/-- Reading does not change how closing will end. -/
theorem close_next (r : Rows) : r.next.2.close.1 = r.close.1 := by
  unfold next
  cases r.toList with
  | nil => rfl
  | cons row rest =>
    unfold close
    by_cases h : r.closed = true
    · simp [h]
    · cases r.closeFailure <;> simp [h]

@[simp] theorem toList_close (r : Rows) : r.close.2.toList = [] := by
  unfold close toList
  by_cases h : r.closed = true
  · simp [h]
  · simp only [h]
    cases r.closeFailure <;> rfl

end Rows

/-- What a store has counted of its cursors. -/
structure CursorCounts where
  opened : Nat
  closed : Nat
deriving Repr, DecidableEq

namespace CursorCounts

/-- No cursor opened. -/
def zero : CursorCounts := ⟨0, 0⟩

/-- The number of cursors that are open. -/
def stillOpen (n : CursorCounts) : Nat := n.opened - n.closed

/-- Count a cursor that is opened. -/
def addOpening (n : CursorCounts) : CursorCounts := { n with opened := n.opened + 1 }

/-- Count a cursor that is closed, if it has been open until then. -/
def addClosing (n : CursorCounts) (r : Rows) : CursorCounts :=
  if !r.closed && r.close.2.closed then { n with closed := n.closed + 1 } else n

theorem addClosing_of_open (n : CursorCounts) {r : Rows} (h : r.closed = false) :
    n.addClosing r = ⟨n.opened, n.closed + 1⟩ := by
  rw [addClosing, h, r.closed_close]
  rfl

/-- A cursor that is closed again does not count again. -/
example : let r := Rows.ofList [] none
    (zero.addOpening.addClosing r).addClosing r.close.2 = ⟨1, 1⟩ := rfl

end CursorCounts

namespace Rows

/-- Rows up to a number of documents; errors do not count, but none follows the last document. -/
def upTo : Option Nat → List Row → List Row
  | none, rows => rows
  | some 0, _ => []
  | some (_ + 1), [] => []
  | some (n + 1), .error e :: rest => .error e :: upTo (some (n + 1)) rest
  | some (n + 1), .ok d :: rest => .ok d :: upTo (some n) rest

/-- What a query makes of the rows of a collection. -/
def ofQuery (q : Query) (rows : List Row) : List Row :=
  let selected := rows.filter fun
    | .ok d => q.selects d
    | .error _ => true
  (upTo q.limit selected).map (·.map q.shape)

/-! ## What a query makes of the first row -/

theorem upTo_nil (limit : Option Nat) : upTo limit [] = [] := by
  rcases limit with _ | _ | _ <;> simp [upTo]

theorem upTo_error {limit : Option Nat} (h : limit ≠ some 0) (e : StoreError) (rows : List Row) :
    upTo limit (.error e :: rows) = .error e :: upTo limit rows := by
  match limit, h with
  | none, _ => simp [upTo]
  | some (n + 1), _ => rw [upTo]

theorem upTo_ok {limit : Option Nat} (h : limit ≠ some 0) (d : Document) (rows : List Row) :
    upTo limit (.ok d :: rows) = .ok d :: upTo (limit.map (· - 1)) rows := by
  match limit, h with
  | none, _ => simp [upTo]
  | some (n + 1), _ => simp [upTo]

theorem ofQuery_nil (q : Query) : ofQuery q [] = [] := by
  rw [ofQuery, List.filter_nil, upTo_nil, List.map_nil]

theorem ofQuery_of_limit_zero {q : Query} (h : q.limit = some 0) (rows : List Row) :
    ofQuery q rows = [] := by
  rw [ofQuery, h, upTo, List.map_nil]

theorem ofQuery_error {q : Query} (h : q.limit ≠ some 0) (e : StoreError) (rows : List Row) :
    ofQuery q (.error e :: rows) = .error e :: ofQuery q rows := by
  rw [ofQuery, List.filter_cons_of_pos rfl, upTo_error h, List.map_cons]
  rfl

theorem ofQuery_unselected {q : Query} {d : Document} (h : ¬q.selects d) (rows : List Row) :
    ofQuery q (.ok d :: rows) = ofQuery q rows := by
  simp only [ofQuery, List.filter_cons, h, if_false, Bool.false_eq_true]

/-- A document that is selected is one of those that the limit allows. -/
theorem ofQuery_selected {q : Query} (h : q.limit ≠ some 0) {d : Document} (hd : q.selects d)
    (rows : List Row) : ofQuery q (.ok d :: rows) =
      .ok (q.shape d) :: ofQuery (q.after 1) rows := by
  simp only [ofQuery, List.filter_cons, hd, if_true, upTo_ok h, List.map_cons]
  rfl

end Rows

end DocTables
