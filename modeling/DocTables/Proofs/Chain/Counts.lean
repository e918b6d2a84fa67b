/-
# What a store counts of a chain

A store counts a cursor when it hands it out and when closing takes it from open to closed; a chain
puts down that it has closed a cursor without a look at whether it was open.  It was, if the store
hands out open cursors: reading does not close them, and the chain lets go of a cursor with closing
it.  So the store counts what the ledger has put down, after any run of calls (`counted_invariant`).
-/
import DocTables.Proofs.Chain.Moves

namespace DocTables

/-! ## 1. Two counts -/

namespace Ledger

variable (l : Ledger) (collection : String) (r : Rows)

theorem opened_opening : (l.opening collection).opened = l.opened + 1 := rfl

theorem closed_opening : (l.opening collection).closed = l.closed := rfl

theorem opened_reading : (l.reading collection).opened = l.opened := rfl

theorem closed_reading : (l.reading collection).closed = l.closed := rfl

theorem opened_closing : (l.closing collection r).opened = l.opened := rfl

theorem closed_closing : (l.closing collection r).closed = l.closed + 1 := rfl

/-- The store has counted since as many cursors as have been put down. -/
structure CountsAlike (before after : Ledger) : Prop where
  opened : after.counts.opened + before.opened = before.counts.opened + after.opened
  closed : after.counts.closed + before.closed = before.counts.closed + after.closed

variable {before l : Ledger}

theorem countsAlike_self (l : Ledger) : l.CountsAlike l := ⟨rfl, rfl⟩

theorem CountsAlike.opening (h : before.CountsAlike l) (collection : String) :
    before.CountsAlike (l.opening collection) := by
  obtain ⟨ho, hc⟩ := h
  constructor
  · show l.counts.opened + 1 + before.opened = _
    rw [opened_opening]
    omega
  · show l.counts.closed + before.closed = _
    rw [closed_opening]
    exact hc

theorem CountsAlike.reading (h : before.CountsAlike l) (collection : String) :
    before.CountsAlike (l.reading collection) := by
  constructor
  · rw [opened_reading]
    exact h.opened
  · rw [closed_reading]
    exact h.closed

/-- Closing an open cursor counts. -/
theorem CountsAlike.closing (h : before.CountsAlike l) (collection : String) {r : Rows}
    (isOpen : r.closed = false) : before.CountsAlike (l.closing collection r) := by
  obtain ⟨ho, hc⟩ := h
  have hcounts : (l.closing collection r).counts = ⟨l.counts.opened, l.counts.closed + 1⟩ :=
    l.counts.addClosing_of_open isOpen
  constructor
  · rw [hcounts, opened_closing]
    exact ho
  · rw [hcounts, closed_closing]
    show l.counts.closed + 1 + before.closed = _
    omega

end Ledger

/-! ## 2. The invariant -/

namespace Chain

/-- Collections are opened with open cursors. -/
def HandsOutOpen (query : String → Except StoreError Rows) : Prop :=
  ∀ name rows, query name = .ok rows → rows.closed = false

/-- The store has counted what the ledger has put down since, and the cursor that the chain holds is
open. -/
structure Counted (query : String → Except StoreError Rows) (before : Ledger) (c : Chain) :
    Prop where
  query_eq : c.query = query
  isOpen : ∀ on, c.current = some on → on.rows.closed = false
  alike : before.CountsAlike c.ledger

variable {query : String → Except StoreError Rows} {before : Ledger}

theorem counted_start (query : String → Except StoreError Rows) (collections : List String)
    (before : Ledger) : Counted query before (start query collections before) :=
  ⟨rfl, nofun, before.countsAlike_self⟩

/-- The cursor after a row has been taken is open. -/
theorem isOpen_of_next {rows rows' : Rows} {row : Option Row} (isOpen : rows.closed = false)
    (h : rows.next = (row, rows')) : rows'.closed = false := by
  have hnext := rows.closed_next
  rw [h] at hnext
  exact hnext.trans isOpen

/-- **The step.** -/
theorem counted_move (opens : HandsOutOpen query) {c c' : Chain} {e : Option CursorError}
    (h : Counted query before c) (move : Move c e c') : Counted query before c' := by
  obtain ⟨hquery, hopen, alike⟩ := h
  cases move with
  | openFailed between next answer => exact ⟨hquery, nofun, alike⟩
  | @opened name rest rows between next answer =>
    refine ⟨hquery, ?_, alike.opening name⟩
    intro on hon
    obtain rfl := Option.some.inj hon
    exact opens name rows (hquery ▸ answer)
  | fetched here empty row | readFailed here empty row =>
    refine ⟨hquery, ?_, alike.reading _⟩
    intro on' hon'
    obtain rfl := Option.some.inj hon'
    exact isOpen_of_next (hopen _ here) row
  | finished here empty row close | closeFailed here empty row close =>
    exact ⟨hquery, nofun, (alike.reading _).closing _ (hopen _ here)⟩

theorem Counted.take {c : Chain} (h : Counted query before c) :
    Counted query before c.take.2 := by
  unfold Chain.take
  cases hc : c.current with
  | none => exact h
  | some on =>
    refine ⟨h.query_eq, ?_, h.alike⟩
    intro on' hon'
    obtain rfl := Option.some.inj hon'
    exact h.isOpen on hc

theorem Counted.close {c : Chain} (h : Counted query before c) :
    Counted query before c.close.2 := by
  rw [close_chain]
  cases hc : c.current with
  | none => exact ⟨h.query_eq, fun on hon => h.isOpen on (hc.trans hon), h.alike⟩
  | some on => exact ⟨h.query_eq, nofun, h.alike.closing _ (h.isOpen on hc)⟩

/-- **A store that hands out open cursors counts what is put down.** -/
theorem counted_invariant (opens : HandsOutOpen query) (before : Ledger) :
    Invariant (Counted query before) := ⟨counted_move opens, Counted.take, Counted.close⟩

theorem counted_run (opens : HandsOutOpen query) (collections : List String) (before : Ledger)
    (calls : List Call) : Counted query before ((start query collections before).run calls).2 :=
  (counted_invariant opens before).run calls (counted_start query collections before)

end Chain

end DocTables
