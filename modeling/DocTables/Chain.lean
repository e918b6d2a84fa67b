/-
# Cursors over several collections

A chain reads the collections of a list one after another as one stream.  A collection is opened
only when the one before it has come to its end and its cursor has been closed, so at most one
cursor is open.  An error in reading leaves the chain on its collection; a collection that cannot be
opened or closed ends the chain.

The chain looks one document ahead: `hasNext` fetches it, `next` hands it out.  A ledger of what has
been done to cursors, and of what their store has counted of it, is part of the state.

`Chain.remaining_next` says that a document that is handed out is taken from what remains; a reader
of the whole stream therefore comes to an end.
-/
import DocTables.Store

namespace DocTables

/-- Why a chain has no document to hand out. -/
inductive CursorError where
  | openFailed (collection : String) (cause : StoreError)
  | readFailed (collection : String) (cause : StoreError)
  | closeFailed (collection : String) (cause : StoreError)
  | exhausted
deriving Repr, DecidableEq

/-- The wording of an error. -/
def CursorError.message : CursorError → String
  | .openFailed collection cause =>
    "Failed to open collection " ++ collection ++ ": " ++ cause.message
  | .readFailed collection cause =>
    "Failed to read from collection " ++ collection ++ ": " ++ cause.message
  | .closeFailed collection cause =>
    "Unable to close the cursor on collection " ++ collection ++ ": " ++ cause.message
  | .exhausted => "No more documents"

/-- What is done to the cursor on a collection. -/
inductive CursorEvent where
  | opened (collection : String)
  /-- The cursor has been asked for its next row. -/
  | read (collection : String)
  | closed (collection : String)
deriving Repr, DecidableEq

namespace CursorEvent

/-- The collection, if its cursor has been opened. -/
def opened? : CursorEvent → Option String
  | opened collection => some collection
  | _ => none

/-- The collection, if its cursor has been closed. -/
def closed? : CursorEvent → Option String
  | closed collection => some collection
  | _ => none

end CursorEvent

/-- What has been done to cursors, the latest first, and what their store has counted of it. -/
structure Ledger where
  events : List CursorEvent
  counts : CursorCounts
deriving Repr, DecidableEq

namespace Ledger

/-- No cursor opened. -/
def empty : Ledger := ⟨[], .zero⟩

instance : Inhabited Ledger := ⟨empty⟩

/-- What has been done to cursors, in order. -/
def history (l : Ledger) : List CursorEvent := l.events.reverse

/-- The number of cursors that have been opened. -/
def opened (l : Ledger) : Nat := (l.events.filterMap CursorEvent.opened?).length

/-- The number of cursors that have been closed. -/
def closed (l : Ledger) : Nat := (l.events.filterMap CursorEvent.closed?).length

/-- Put down that a cursor on a collection has been opened. -/
def opening (l : Ledger) (collection : String) : Ledger :=
  ⟨.opened collection :: l.events, l.counts.addOpening⟩

/-- Put down that the cursor on a collection has been asked for a row. -/
def reading (l : Ledger) (collection : String) : Ledger :=
  ⟨.read collection :: l.events, l.counts⟩

/-- Put down that the cursor on a collection has been closed. -/
def closing (l : Ledger) (collection : String) (r : Rows) : Ledger :=
  ⟨.closed collection :: l.events, l.counts.addClosing r⟩

@[simp] theorem history_opening (l : Ledger) (collection : String) :
    (l.opening collection).history = l.history ++ [.opened collection] := List.reverse_cons

@[simp] theorem history_reading (l : Ledger) (collection : String) :
    (l.reading collection).history = l.history ++ [.read collection] := List.reverse_cons

@[simp] theorem history_closing (l : Ledger) (collection : String) (r : Rows) :
    (l.closing collection r).history = l.history ++ [.closed collection] := List.reverse_cons

end Ledger

/-- The collection that a chain is reading. -/
structure Chain.Current where
  collection : String
  rows : Rows
  /-- The document that has been fetched and not handed out. -/
  peeked : Option Document

/-- A cursor over several collections. -/
structure Chain where
  /-- How a collection is opened. -/
  query : String → Except StoreError Rows
  current : Option Chain.Current
  /-- The collections that have not been opened yet. -/
  upcoming : List String
  ledger : Ledger

namespace Chain

/-- A chain over collections, none of which is open. -/
def start (query : String → Except StoreError Rows) (collections : List String)
    (ledger : Ledger) : Chain := ⟨query, none, collections, ledger⟩

/-- A chain over collections of a database, opened by a query. -/
def ofStore (store : Store) (database : String) (q : Query) (collections : List String)
    (ledger : Ledger) : Chain :=
  start (fun collection => store.find database collection q) collections ledger

/-- The collection that is being read. -/
def collection? (c : Chain) : Option String := c.current.map (·.collection)

/-- The chain with nothing left to read. -/
def exhaust (c : Chain) : Chain := { c with current := none, upcoming := [] }

/-! ## 1. One step -/

/-- Close the cursor of the current collection, after which none is current.  If that fails, the
chain has come to its end.  -/
def release (c : Chain) : Except CursorError Unit × Chain :=
  match c.current with
  | none => (.ok (), c)
  | some on =>
    let c := { c with current := none, ledger := c.ledger.closing on.collection on.rows }
    match on.rows.close.1 with
    | .ok () => (.ok (), c)
    | .error e => (.error (.closeFailed on.collection e), c.exhaust)

/-- What fetching from an open collection comes to. -/
inductive Fetch where
  /-- A document has been fetched. -/
  | found (on : Current)
  | failed (e : StoreError) (on : Current)
  /-- The collection has come to its end. -/
  | ended

/-- Fetch the next document of a collection, unless one has been fetched. -/
def Current.fetch (on : Current) (ledger : Ledger) : Fetch × Ledger :=
  match on.peeked with
  | some _ => (.found on, ledger)
  | none =>
    let ledger := ledger.reading on.collection
    match on.rows.next with
    | (some (.ok d), rows) => (.found { on with rows := rows, peeked := some d }, ledger)
    | (some (.error e), rows) => (.failed e { on with rows := rows }, ledger)
    | (none, _) => (.ended, ledger)

/-- Open one collection after another until one yields a row.  The chain is between collections. -/
def openNext (query : String → Except StoreError Rows) (ledger : Ledger) :
    List String → Except CursorError Bool × Chain
  | [] => (.ok false, ⟨query, none, [], ledger⟩)
  | name :: rest =>
    match query name with
    | .error e => (.error (.openFailed name e), ⟨query, none, [], ledger⟩)
    | .ok rows =>
      match Current.fetch ⟨name, rows, none⟩ (ledger.opening name) with
      | (.found on, ledger) => (.ok true, ⟨query, some on, rest, ledger⟩)
      | (.failed e on, ledger) => (.error (.readFailed name e), ⟨query, some on, rest, ledger⟩)
      | (.ended, ledger) =>
        let ledger := ledger.closing name rows
        match rows.close.1 with
        | .ok () => openNext query ledger rest
        | .error e => (.error (.closeFailed name e), ⟨query, none, [], ledger⟩)

/-- Whether there is another document, which is fetched. -/
def hasNext (c : Chain) : Except CursorError Bool × Chain :=
  match c.current with
  | none => openNext c.query c.ledger c.upcoming
  | some on =>
    match on.fetch c.ledger with
    | (.found on, ledger) => (.ok true, { c with current := some on, ledger := ledger })
    | (.failed e on, ledger) =>
      (.error (.readFailed on.collection e), { c with current := some on, ledger := ledger })
    | (.ended, ledger) =>
      match { c with ledger := ledger }.release with
      | (.ok (), c) => openNext c.query c.ledger c.upcoming
      | (.error e, c) => (.error e, c)

/-- Hand out the document that has been fetched. -/
def take (c : Chain) : Option Document × Chain :=
  match c.current with
  | some on => (on.peeked, { c with current := some { on with peeked := none } })
  | none => (none, c)

/-- The next document. -/
def next (c : Chain) : Except CursorError Document × Chain :=
  match c.hasNext with
  | (.error e, c) => (.error e, c)
  | (.ok false, c) => (.error .exhausted, c)
  | (.ok true, c) =>
    match c.take with
    | (some d, c) => (.ok d, c)
    | (none, c) => (.error .exhausted, c)

/-- The next document or error; nothing at the end. -/
def next? (c : Chain) : Option (Except CursorError Document) × Chain :=
  match c.hasNext with
  | (.error e, c) => (some (.error e), c)
  | (.ok false, c) => (none, c)
  | (.ok true, c) =>
    match c.take with
    | (some d, c) => (some (.ok d), c)
    | (none, c) => (some (.error .exhausted), c)

/-- Close the chain: nothing is read or opened any more. -/
def close (c : Chain) : Except CursorError Unit × Chain :=
  let (result, c) := c.release
  (result, c.exhaust)

/-- Give the chain up, whether or not its cursor can be closed. -/
def drop (c : Chain) : Chain := c.close.2

/-! ## 2. What remains -/

/-- How much is left to read: the collections to open, then the documents of the current one, with
the one that has been fetched. -/
def remaining (c : Chain) : Nat × Nat :=
  (c.upcoming.length,
    match c.current with
    | none => 0
    | some on => on.rows.toList.length + (if on.peeked.isSome then 1 else 0))

/-- One amount is left after another: fewer collections, or as many and fewer documents. -/
def Less (a b : Nat × Nat) : Prop := a.1 < b.1 ∨ a.1 = b.1 ∧ a.2 < b.2

/-- Amounts left are ordered as pairs are. -/
theorem Less.lex {a b : Nat × Nat} (h : Less a b) :
    Prod.Lex (· < ·) (· < ·) (a.1, a.2) (b.1, b.2) := by
  obtain ⟨a1, a2⟩ := a
  obtain ⟨b1, b2⟩ := b
  rcases h with h | ⟨h, h'⟩
  · exact Prod.Lex.left _ _ h
  · obtain rfl : a1 = b1 := h
    exact Prod.Lex.right _ h'

theorem fetch_found {on on' : Current} {ledger ledger' : Ledger}
    (h : on.fetch ledger = (.found on', ledger')) :
    on'.peeked.isSome ∧ on'.collection = on.collection ∧
      on'.rows.toList.length + 1 = on.rows.toList.length + (if on.peeked.isSome then 1 else 0) := by
  unfold Current.fetch at h
  split at h
  · rename_i d hd
    obtain rfl : on = on' := by simpa using congrArg Prod.fst h
    simp [hd]
  · rename_i hp
    have h1 := on.rows.next_eq
    have h2 := on.rows.toList_next
    split at h
    · rename_i d rows hn
      rw [hn] at h1 h2
      simp only at h1 h2
      obtain rfl := by simpa using congrArg Prod.fst h
      cases hl : on.rows.toList with
      | nil => simp [hl] at h1
      | cons r rs => simp [h2, hl, hp]
    · simp at h
    · simp at h

theorem openNext_found {query : String → Except StoreError Rows} {ledger : Ledger}
    {names : List String} {c : Chain} (h : openNext query ledger names = (.ok true, c)) :
    (∃ on, c.current = some on ∧ on.peeked.isSome) ∧ c.upcoming.length < names.length := by
  induction names generalizing ledger with
  | nil => simp [openNext] at h
  | cons name rest ih =>
    rw [openNext] at h
    split at h
    · simp at h
    · rename_i rows hq
      simp only at h
      split at h
      · rename_i on ledger' hf
        obtain rfl := (Prod.mk.inj h).2
        exact ⟨⟨on, rfl, (fetch_found hf).1⟩, Nat.lt_succ_self _⟩
      · simp at h
      · split at h
        · obtain ⟨h1, h2⟩ := ih h
          exact ⟨h1, Nat.lt_succ_of_lt h2⟩
        · simp at h

/-- What `hasNext` promises: a document has been fetched, and no more is left than before. -/
theorem hasNext_found {c c' : Chain} (h : c.hasNext = (.ok true, c')) :
    (∃ on, c'.current = some on ∧ on.peeked.isSome) ∧
      (c'.remaining = c.remaining ∨ Less c'.remaining c.remaining) := by
  unfold hasNext at h
  split at h
  · obtain ⟨h1, h2⟩ := openNext_found h
    exact ⟨h1, Or.inr (Or.inl h2)⟩
  · rename_i on hcur
    split at h
    · rename_i on' ledger' hf
      obtain ⟨hp, -, hl⟩ := fetch_found hf
      obtain rfl := (Prod.mk.inj h).2
      refine ⟨⟨on', rfl, hp⟩, Or.inl ?_⟩
      simp only [remaining, hcur, hp, if_true]
      rw [hl]
    · simp at h
    · unfold release at h
      rw [hcur] at h
      simp only at h
      split at h
      · rename_i c1 hr
        split at hr
        · obtain rfl := (Prod.mk.inj hr).2
          obtain ⟨h1, h2⟩ := openNext_found h
          exact ⟨h1, Or.inr (Or.inl h2)⟩
        · simp at hr
      · simp at h

/-- **A document that is handed out is taken from what remains.** -/
theorem remaining_next {c c1 : Chain} (h : c.hasNext = (.ok true, c1)) :
    Less c1.take.2.remaining c.remaining := by
  obtain ⟨⟨on, hon, hp⟩, hle⟩ := hasNext_found h
  have hlt : Less c1.take.2.remaining c1.remaining := by
    refine Or.inr ⟨?_, ?_⟩
    · simp [remaining, take, hon]
    · simp [remaining, take, hon, hp]
  rcases hle with he | hl
  · rw [← he]; exact hlt
  · rcases hlt with h1 | ⟨h1, h2⟩ <;> rcases hl with h3 | ⟨h3, h4⟩
    · exact Or.inl (Nat.lt_trans h1 h3)
    · exact Or.inl (h3 ▸ h1)
    · exact Or.inl (h1 ▸ h3)
    · exact Or.inr ⟨h1.trans h3, Nat.lt_trans h2 h4⟩

end Chain

end DocTables
