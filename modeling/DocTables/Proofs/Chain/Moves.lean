/-
# The moves of a chain

A call on a chain opens, reads and closes as many collections as it takes to reach a document, an
error or the end.  `Move` lists what a chain can do at a time, with the error that comes of it, if
any, and with what it puts down in the ledger.  A call goes on moving until a move fails:

* `hasNext_moves`: what `hasNext` does is a sequence of moves, in which no error but its own answer
  occurs;
* `hasNext_settles`: it leaves the chain on a document, after an error, or at the end.

Every invariant of the moves is therefore one of the calls (`Invariant`).  Section 3 holds the calls
and their answers as data, and the runs of calls.
-/
import DocTables.Chain

namespace DocTables.Chain

/-! ## 1. Moves -/

/-- One move of a chain, and the error that it ends in, if it fails. -/
inductive Move : Chain → Option CursorError → Chain → Prop
  | openFailed {c : Chain} {name : String} {rest : List String} {e : StoreError}
      (between : c.current = none) (next : c.upcoming = name :: rest)
      (answer : c.query name = .error e) : Move c (some (.openFailed name e)) c.exhaust
  | opened {c : Chain} {name : String} {rest : List String} {rows : Rows}
      (between : c.current = none) (next : c.upcoming = name :: rest)
      (answer : c.query name = .ok rows) :
      Move c none ⟨c.query, some ⟨name, rows, none⟩, rest, c.ledger.opening name⟩
  | fetched {c : Chain} {on : Current} {d : Document} {rows : Rows}
      (here : c.current = some on) (empty : on.peeked = none)
      (row : on.rows.next = (some (.ok d), rows)) :
      Move c none ⟨c.query, some ⟨on.collection, rows, some d⟩, c.upcoming,
        c.ledger.reading on.collection⟩
  | readFailed {c : Chain} {on : Current} {e : StoreError} {rows : Rows}
      (here : c.current = some on) (empty : on.peeked = none)
      (row : on.rows.next = (some (.error e), rows)) :
      Move c (some (.readFailed on.collection e)) ⟨c.query, some ⟨on.collection, rows, none⟩,
        c.upcoming, c.ledger.reading on.collection⟩
  | finished {c : Chain} {on : Current}
      (here : c.current = some on) (empty : on.peeked = none) (row : on.rows.next.1 = none)
      (close : on.rows.close.1 = .ok ()) :
      Move c none ⟨c.query, none, c.upcoming,
        (c.ledger.reading on.collection).closing on.collection on.rows⟩
  | closeFailed {c : Chain} {on : Current} {e : StoreError}
      (here : c.current = some on) (empty : on.peeked = none) (row : on.rows.next.1 = none)
      (close : on.rows.close.1 = .error e) :
      Move c (some (.closeFailed on.collection e)) ⟨c.query, none, [],
        (c.ledger.reading on.collection).closing on.collection on.rows⟩

/-- Moves one after another, up to the first that fails. -/
inductive Moves : Chain → Option CursorError → Chain → Prop
  | done (c : Chain) : Moves c none c
  | failed {c c' : Chain} {e : CursorError} (move : Move c (some e) c') : Moves c (some e) c'
  | more {c c' c'' : Chain} {e : Option CursorError} (move : Move c none c')
      (moves : Moves c' e c'') : Moves c e c''

/-- The error of an answer, if it is one. -/
def failure? {α : Type} : Except CursorError α → Option CursorError
  | .ok _ => none
  | .error e => some e

/-- The chain has come to its end: no collection is current and none is to come. -/
def Exhausted (c : Chain) : Prop := c.current = none ∧ c.upcoming = []

/-- The chain has fetched a document that has not been handed out. -/
def Holds (c : Chain) (d : Document) : Prop := ∃ on, c.current = some on ∧ on.peeked = some d

/-- What an answer of `hasNext` says of the chain that it leaves. -/
def Settled (c : Chain) : Except CursorError Bool → Prop
  | .ok true => ∃ d, c.Holds d
  | .ok false => c.Exhausted
  | .error _ => True

/-! ## 2. What a call does is moves -/

/-- What fetching from a collection can come to, and when. -/
theorem fetch_cases (on : Current) (ledger : Ledger) :
    (∃ d, on.peeked = some d ∧ on.fetch ledger = (.found on, ledger)) ∨
    on.peeked = none ∧
      ((∃ d rows, on.rows.next = (some (.ok d), rows) ∧
          on.fetch ledger =
            (.found ⟨on.collection, rows, some d⟩, ledger.reading on.collection)) ∨
        (∃ e rows, on.rows.next = (some (.error e), rows) ∧
          on.fetch ledger =
            (.failed e ⟨on.collection, rows, none⟩, ledger.reading on.collection)) ∨
        (on.rows.next.1 = none ∧
          on.fetch ledger = (.ended, ledger.reading on.collection))) := by
  unfold Current.fetch
  cases hp : on.peeked with
  | some d => exact Or.inl ⟨d, rfl, rfl⟩
  | none =>
    refine Or.inr ⟨rfl, ?_⟩
    rcases hn : on.rows.next with ⟨_ | e | d, rows⟩
    · exact Or.inr (Or.inr ⟨rfl, rfl⟩)
    · exact Or.inr (Or.inl ⟨e, rows, rfl, rfl⟩)
    · exact Or.inl ⟨d, rows, rfl, rfl⟩

/-- The search for a row, from between two collections. -/
theorem openNext_moves (query : String → Except StoreError Rows) :
    ∀ (names : List String) (ledger : Ledger),
      Moves ⟨query, none, names, ledger⟩ (failure? (openNext query ledger names).1)
          (openNext query ledger names).2 ∧
        (openNext query ledger names).2.Settled (openNext query ledger names).1
  | [], ledger => ⟨.done _, rfl, rfl⟩
  | name :: rest, ledger => by
    rw [openNext]
    cases hq : query name with
    | error e => exact ⟨.failed (.openFailed rfl rfl hq), trivial⟩
    | ok rows =>
      have opened : Move ⟨query, none, name :: rest, ledger⟩ none
          ⟨query, some ⟨name, rows, none⟩, rest, ledger.opening name⟩ :=
        .opened rfl rfl hq
      rcases fetch_cases ⟨name, rows, none⟩ (ledger.opening name) with
        ⟨d, hp, -⟩ | ⟨hp, ⟨d, rows', hn, hf⟩ | ⟨e, rows', hn, hf⟩ | ⟨hn, hf⟩⟩
      · exact absurd hp (by simp)
      · simp only [hf]
        exact ⟨.more opened (.more (.fetched rfl hp hn) (.done _)), d, _, rfl, rfl⟩
      · simp only [hf]
        exact ⟨.more opened (.failed (.readFailed rfl hp hn)), trivial⟩
      · simp only [hf]
        cases hc : rows.close.1 with
        | error e => exact ⟨.more opened (.failed (.closeFailed rfl hp hn hc)), trivial⟩
        | ok u =>
          obtain ⟨moves, settled⟩ := openNext_moves query rest
            (((ledger.opening name).reading name).closing name rows)
          exact ⟨.more opened (.more (.finished rfl hp hn hc) moves), settled⟩

/-- **What `hasNext` does.**  It moves until it has a document, an error or the end. -/
theorem hasNext_spec (c : Chain) :
    Moves c (failure? c.hasNext.1) c.hasNext.2 ∧ c.hasNext.2.Settled c.hasNext.1 := by
  obtain ⟨query, current, upcoming, ledger⟩ := c
  cases current with
  | none => exact openNext_moves query upcoming ledger
  | some on =>
    simp only [hasNext]
    rcases fetch_cases on ledger with
      ⟨d, hp, hf⟩ | ⟨hp, ⟨d, rows, hn, hf⟩ | ⟨e, rows, hn, hf⟩ | ⟨hn, hf⟩⟩
    · rw [hf]
      exact ⟨.done _, d, on, rfl, hp⟩
    · rw [hf]
      exact ⟨.more (.fetched rfl hp hn) (.done _), d, _, rfl, rfl⟩
    · rw [hf]
      have failed := Move.readFailed (c := ⟨query, some on, upcoming, ledger⟩) rfl hp hn
      exact ⟨.failed failed, trivial⟩
    · rw [hf]
      simp only [release]
      cases hc : on.rows.close.1 with
      | error e => exact ⟨.failed (.closeFailed rfl hp hn hc), trivial⟩
      | ok u =>
        obtain ⟨moves, settled⟩ := openNext_moves query upcoming
          ((ledger.reading on.collection).closing on.collection on.rows)
        exact ⟨.more (.finished rfl hp hn hc) moves, settled⟩

theorem hasNext_moves (c : Chain) : Moves c (failure? c.hasNext.1) c.hasNext.2 :=
  c.hasNext_spec.1

theorem hasNext_settles (c : Chain) : c.hasNext.2.Settled c.hasNext.1 := c.hasNext_spec.2

theorem take_of_holds {c : Chain} {d : Document} (h : c.Holds d) :
    c.take = (some d, c.take.2) := by
  obtain ⟨on, hon, hd⟩ := h
  simp [take, hon, hd]

/-- `next` and `next?` differ only in what they answer at the end. -/
theorem next_eq_next? (c : Chain) :
    c.next = (c.next?.1.getD (.error .exhausted), c.next?.2) := by
  unfold next next?
  match c.hasNext with
  | (.error e, c') => rfl
  | (.ok false, c') => rfl
  | (.ok true, c') =>
    simp only
    match c'.take with
    | (some d, c'') => rfl
    | (none, c'') => rfl

/-- The chain that `next?` leaves: that of `hasNext`, or that with its document handed out. -/
theorem next?_chain (c : Chain) :
    c.next?.2 = c.hasNext.2 ∨ c.next?.2 = c.hasNext.2.take.2 := by
  unfold next?
  match c.hasNext with
  | (.error e, c') => exact Or.inl rfl
  | (.ok false, c') => exact Or.inl rfl
  | (.ok true, c') =>
    simp only
    match c'.take with
    | (some d, c'') => exact Or.inr rfl
    | (none, c'') => exact Or.inr rfl

/-- Closing ends the chain, whatever it comes to.  The current cursor, if any, is closed. -/
theorem close_chain (c : Chain) :
    c.close.2 = match c.current with
      | none => c.exhaust
      | some on => ⟨c.query, none, [], c.ledger.closing on.collection on.rows⟩ := by
  unfold close release
  cases c.current with
  | none => rfl
  | some on => cases hc : on.rows.close.1 <;> simp [hc, exhaust]

theorem exhausted_close (c : Chain) : c.close.2.Exhausted := ⟨rfl, rfl⟩

/-! ## 3. Calls and runs -/

/-- A call that reads. -/
inductive Reading where
  | hasNext
  | next
  | iterate
deriving Repr, DecidableEq

/-- A call. -/
inductive Call where
  | read (reading : Reading)
  | close
deriving Repr, DecidableEq

/-- What a call answers. -/
inductive Answer where
  | available (answer : Except CursorError Bool)
  | document (answer : Except CursorError Document)
  | item (answer : Option (Except CursorError Document))
  | closed (answer : Except CursorError Unit)

/-- Answer a call. -/
def perform (c : Chain) : Call → Answer × Chain
  | .read .hasNext => (.available c.hasNext.1, c.hasNext.2)
  | .read .next => (.document c.next.1, c.next.2)
  | .read .iterate => (.item c.next?.1, c.next?.2)
  | .close => (.closed c.close.1, c.close.2)

/-- Answer calls one after another. -/
def run (c : Chain) : List Call → List Answer × Chain
  | [] => ([], c)
  | call :: calls =>
    let (answer, c) := c.perform call
    let (answers, c) := c.run calls
    (answer :: answers, c)

/-- What each move keeps, and handing out a document, and closing. -/
structure Invariant (inv : Chain → Prop) : Prop where
  move : ∀ {c c' : Chain} {e : Option CursorError}, inv c → Move c e c' → inv c'
  take : ∀ {c : Chain}, inv c → inv c.take.2
  close : ∀ {c : Chain}, inv c → inv c.close.2

section

variable {inv : Chain → Prop}

theorem Invariant.moves (invariant : Invariant inv) {c c' : Chain} {e : Option CursorError}
    (moves : Moves c e c') : inv c → inv c' := by
  induction moves with
  | done c => exact id
  | failed move => exact fun h => invariant.move h move
  | more move _ ih => exact fun h => ih (invariant.move h move)

/-- **Every call keeps an invariant**, also one that is answered by an error. -/
theorem Invariant.perform (invariant : Invariant inv) {c : Chain} (h : inv c) (call : Call) :
    inv (c.perform call).2 := by
  have hn : inv c.hasNext.2 := invariant.moves c.hasNext_moves h
  have hi : inv c.next?.2 := by
    rcases c.next?_chain with he | he <;> rw [he]
    · exact hn
    · exact invariant.take hn
  match call with
  | .read .hasNext => exact hn
  | .read .next =>
    rw [Chain.perform, next_eq_next?]
    exact hi
  | .read .iterate => exact hi
  | .close => exact invariant.close h

theorem Invariant.run (invariant : Invariant inv) : ∀ (calls : List Call) {c : Chain}, inv c →
    inv (c.run calls).2
  | [], _, h => h
  | call :: calls, _, h => invariant.run calls (invariant.perform h call)

end

/-- What a call answers at the end: there is no document, and nothing is left to close. -/
def Call.atEnd : Call → Answer
  | .read .hasNext => .available (.ok false)
  | .read .next => .document (.error .exhausted)
  | .read .iterate => .item none
  | .close => .closed (.ok ())

/-- A call on a chain at its end does nothing. -/
theorem perform_of_exhausted {c : Chain} (h : c.Exhausted) (call : Call) :
    c.perform call = (call.atEnd, c) := by
  obtain ⟨query, current, upcoming, ledger⟩ := c
  obtain ⟨rfl, rfl⟩ : current = none ∧ upcoming = [] := h
  rcases call with (_ | _ | _) | _ <;> rfl

/-- **The end is final.**  All calls from there on are answered as at the end and change nothing. -/
theorem run_of_exhausted {c : Chain} (h : c.Exhausted) :
    ∀ calls : List Call, c.run calls = (calls.map Call.atEnd, c)
  | [] => rfl
  | call :: calls => by
    simp only [run, perform_of_exhausted h call, run_of_exhausted h calls, List.map_cons]

end DocTables.Chain
