/-
# A chain holds at most one cursor and closes what it opens

What a chain puts down in its ledger is a sequence of visits to collections: a cursor is opened,
asked for rows any number of times, and closed, before the next one is opened.  Only the visit to
the current collection is not over.  The collections visited are a prefix of the list that the chain
was started with.

`Orderly` says so of a chain.  Every move keeps it (`orderly_move`), and so does every run of calls
(`orderly_invariant`).  A chain that has been closed is at its end, whatever closing came to
(`exhausted_close`), and does nothing any more (`run_of_exhausted`).

A store that counts its cursors comes to the same numbers (`counts_of_visits`).
-/
import DocTables.Proofs.Chain.Counts

namespace DocTables.Chain

/-! ## 1. Visits -/

/-- A visit to a collection: its cursor has been opened and asked for a row so many times. -/
structure Visit where
  collection : String
  reads : Nat

namespace Visit

/-- What is put down of a visit that is not over. -/
def begun (v : Visit) : List CursorEvent :=
  .opened v.collection :: List.replicate v.reads (.read v.collection)

/-- What is put down of a visit that is over: in the end the cursor has been closed. -/
def ended (v : Visit) : List CursorEvent := v.begun ++ [.closed v.collection]

/-- The visit after one more row has been asked for. -/
def again (v : Visit) : Visit := ⟨v.collection, v.reads + 1⟩

@[simp] theorem collection_again (v : Visit) : v.again.collection = v.collection := rfl

theorem begun_again (v : Visit) : v.again.begun = v.begun ++ [.read v.collection] := by
  simp [begun, again, List.replicate_succ']

theorem opened_begun (v : Visit) : v.begun.filterMap CursorEvent.opened? = [v.collection] := by
  simp [begun, CursorEvent.opened?]

theorem closed_begun (v : Visit) : v.begun.filterMap CursorEvent.closed? = [] := by
  simp [begun, CursorEvent.closed?]

theorem opened_ended (v : Visit) : v.ended.filterMap CursorEvent.opened? = [v.collection] := by
  simp [ended, opened_begun, CursorEvent.opened?]

theorem closed_ended (v : Visit) : v.ended.filterMap CursorEvent.closed? = [v.collection] := by
  simp [ended, closed_begun, CursorEvent.closed?]

end Visit

/-- What is put down of visits that are over and perhaps of one that is not. -/
def record (past : List Visit) (now : Option Visit) : List CursorEvent :=
  past.flatMap Visit.ended ++ now.toList.flatMap Visit.begun

/-- The collections of visits, in order. -/
def visited (past : List Visit) (now : Option Visit) : List String :=
  (past ++ now.toList).map Visit.collection

theorem opened_record (past : List Visit) (now : Option Visit) :
    (record past now).filterMap CursorEvent.opened? = visited past now := by
  have hp : (past.flatMap Visit.ended).filterMap CursorEvent.opened? =
      past.map Visit.collection := by
    induction past with
    | nil => rfl
    | cons v past ih => simp [List.filterMap_append, Visit.opened_ended, ih]
  cases now <;> simp [record, visited, hp, Visit.opened_begun]

theorem closed_record (past : List Visit) (now : Option Visit) :
    (record past now).filterMap CursorEvent.closed? = past.map Visit.collection := by
  have hp : (past.flatMap Visit.ended).filterMap CursorEvent.closed? =
      past.map Visit.collection := by
    induction past with
    | nil => rfl
    | cons v past ih => simp [List.filterMap_append, Visit.closed_ended, ih]
  cases now <;> simp [record, hp, Visit.closed_begun]

theorem record_opened (past : List Visit) (name : String) :
    record past (some ⟨name, 0⟩) = record past none ++ [.opened name] := by
  simp [record, Visit.begun]

theorem record_again (past : List Visit) (v : Visit) :
    record past (some v.again) = record past (some v) ++ [.read v.collection] := by
  simp [record, Visit.begun_again]

theorem record_ended (past : List Visit) (v : Visit) :
    record (past ++ [v]) none = record past (some v) ++ [.closed v.collection] := by
  simp [record, Visit.ended]

/-! ## 2. The invariant -/

/-- The chain has visited a prefix of the collections, one after another, after what stood in the
ledger before; the visit that is not over is that to its current collection. -/
def Orderly (collections : List String) (before : Ledger) (c : Chain) : Prop :=
  ∃ (past : List Visit) (now : Option Visit),
    now.map Visit.collection = c.collection? ∧
      c.ledger.history = before.history ++ record past now ∧
      visited past now ++ c.upcoming <+: collections

theorem orderly_start (query : String → Except StoreError Rows) (collections : List String)
    (ledger : Ledger) : Orderly collections ledger (start query collections ledger) :=
  ⟨[], none, rfl, by simp [start, record], by simp [start, visited]⟩

variable {collections : List String} {before : Ledger}

/-- A chain on a collection is on a visit to it. -/
theorem Orderly.visit {c : Chain} {on : Current} (h : Orderly collections before c)
    (here : c.current = some on) :
    ∃ (past : List Visit) (v : Visit), v.collection = on.collection ∧
      c.ledger.history = before.history ++ record past (some v) ∧
      visited past (some v) ++ c.upcoming <+: collections := by
  obtain ⟨past, now, hnow, hledger, hpre⟩ := h
  rw [collection?, here] at hnow
  obtain ⟨v, rfl, hv⟩ := Option.map_eq_some_iff.mp hnow
  exact ⟨past, v, hv, hledger, hpre⟩

/-- A chain between collections is on no visit. -/
theorem Orderly.between {c : Chain} (h : Orderly collections before c)
    (none_here : c.current = none) :
    ∃ past : List Visit, c.ledger.history = before.history ++ record past none ∧
      visited past none ++ c.upcoming <+: collections := by
  obtain ⟨past, now, hnow, hledger, hpre⟩ := h
  rw [collection?, none_here] at hnow
  obtain rfl := Option.map_eq_none_iff.mp hnow
  exact ⟨past, hledger, hpre⟩

/-- Asking for a row on the current collection. -/
theorem Orderly.read {c : Chain} {on : Current} (h : Orderly collections before c)
    (here : c.current = some on) (rows : Rows) (peeked : Option Document) :
    Orderly collections before ⟨c.query, some ⟨on.collection, rows, peeked⟩, c.upcoming,
      c.ledger.reading on.collection⟩ := by
  obtain ⟨past, v, hv, hledger, hpre⟩ := h.visit here
  refine ⟨past, some v.again, by simp [collection?, hv], ?_, ?_⟩
  · rw [Ledger.history_reading, hledger, record_again, hv, List.append_assoc]
  · simpa [visited] using hpre

/-- Closing the cursor on the current collection, after which no more than was to come is. -/
theorem Orderly.close {c : Chain} {on : Current} (h : Orderly collections before c)
    (here : c.current = some on) {upcoming : List String} (hup : upcoming <+: c.upcoming) :
    Orderly collections before
      ⟨c.query, none, upcoming, c.ledger.closing on.collection on.rows⟩ := by
  obtain ⟨past, v, hv, hledger, hpre⟩ := h.visit here
  refine ⟨past ++ [v], none, rfl, ?_, ?_⟩
  · rw [Ledger.history_closing, hledger, record_ended, hv, List.append_assoc]
  · refine List.IsPrefix.trans ?_ hpre
    simpa [visited] using hup

/-- **The step.**  Every move keeps the order. -/
theorem orderly_move {c c' : Chain} {e : Option CursorError} (h : Orderly collections before c)
    (move : Move c e c') : Orderly collections before c' := by
  cases move with
  | openFailed between next answer =>
    obtain ⟨past, hledger, hpre⟩ := h.between between
    refine ⟨past, none, rfl, hledger, List.IsPrefix.trans ?_ hpre⟩
    simp [exhaust]
  | opened between next answer =>
    rename_i name rest rows
    obtain ⟨past, hledger, hpre⟩ := h.between between
    refine ⟨past, some ⟨name, 0⟩, rfl, ?_, ?_⟩
    · rw [Ledger.history_opening, hledger, record_opened, List.append_assoc]
    · simpa [visited, next] using hpre
  | fetched here empty row => exact h.read here _ _
  | readFailed here empty row => exact h.read here _ _
  | finished here empty row close =>
    rename_i on
    exact (h.read here on.rows none).close rfl (List.prefix_refl _)
  | closeFailed here empty row close =>
    rename_i on e
    exact (h.read here on.rows none).close rfl List.nil_prefix

theorem Orderly.take {c : Chain} (h : Orderly collections before c) :
    Orderly collections before c.take.2 := by
  unfold Chain.take
  cases hc : c.current with
  | none => exact h
  | some on =>
    obtain ⟨past, v, hv, hledger, hpre⟩ := h.visit hc
    exact ⟨past, some v, congrArg some hv, hledger, hpre⟩

theorem Orderly.closing {c : Chain} (h : Orderly collections before c) :
    Orderly collections before c.close.2 := by
  rw [close_chain]
  cases hc : c.current with
  | none =>
    obtain ⟨past, hledger, hpre⟩ := h.between hc
    exact ⟨past, none, rfl, hledger, List.IsPrefix.trans (by simp [exhaust]) hpre⟩
  | some on => exact h.close hc List.nil_prefix

theorem orderly_invariant (collections : List String) (before : Ledger) :
    Invariant (Orderly collections before) := ⟨orderly_move, Orderly.take, Orderly.closing⟩

/-! ## 3. The counts, and the end -/

/-- What a list of events adds to the counts of a ledger. -/
theorem counts_of_history {l before : Ledger} {events : List CursorEvent}
    (h : l.history = before.history ++ events) :
    l.opened = before.opened + (events.filterMap CursorEvent.opened?).length ∧
      l.closed = before.closed + (events.filterMap CursorEvent.closed?).length := by
  have he : l.events = events.reverse ++ before.events := by
    have := congrArg List.reverse h
    simpa [Ledger.history] using this
  simp only [Ledger.opened, Ledger.closed, he, List.filterMap_append, List.filterMap_reverse,
    List.length_append, List.length_reverse]
  omega

/-- Where all visits are over, the store has counted each of them as a cursor opened and closed. -/
theorem counts_of_visits {l before : Ledger} {visits : List Visit}
    (hhistory : l.history = before.history ++ visits.flatMap Visit.ended)
    (alike : before.CountsAlike l) :
    l.counts = ⟨before.counts.opened + visits.length, before.counts.closed + visits.length⟩ := by
  have hrecord : visits.flatMap Visit.ended = record visits none := by simp [record]
  obtain ⟨ho, hc⟩ := counts_of_history (hhistory.trans (by rw [hrecord]))
  rw [opened_record, visited, List.length_map, Option.toList_none, List.append_nil] at ho
  rw [closed_record, List.length_map] at hc
  obtain ⟨hopened, hclosed⟩ := alike
  have counted_opened : l.counts.opened = before.counts.opened + visits.length := by omega
  have counted_closed : l.counts.closed = before.counts.closed + visits.length := by omega
  rw [← counted_opened, ← counted_closed]

/-- One more cursor has been opened than closed where a collection is current, else as many. -/
theorem Orderly.counts {c : Chain} (h : Orderly collections before c) :
    c.ledger.opened + before.closed =
      c.ledger.closed + before.opened + if c.collection?.isSome then 1 else 0 := by
  obtain ⟨past, now, hnow, hledger, -⟩ := h
  obtain ⟨ho, hc⟩ := counts_of_history hledger
  rw [opened_record] at ho
  rw [closed_record] at hc
  rw [ho, hc, ← hnow]
  cases now <;> simp [visited] <;> omega

/-- A run in which the chain is closed leaves it at its end. -/
theorem exhausted_run : ∀ (calls : List Call) (c : Chain), .close ∈ calls →
    (c.run calls).2.Exhausted
  | [], _, h => absurd h (by simp)
  | call :: calls, c, h => by
    rcases List.mem_cons.mp h with rfl | h
    · have he : (c.perform .close).2.Exhausted := c.exhausted_close
      show ((c.perform .close).2.run calls).2.Exhausted
      rw [run_of_exhausted he]
      exact he
    · exact exhausted_run calls (c.perform call).2 h

/-- When a chain is closed, all of its visits are over. -/
theorem close_visits (query : String → Except StoreError Rows) (collections : List String)
    (before : Ledger) (calls : List Call) :
    ∃ past : List Visit,
      ((start query collections before).run calls).2.close.2.ledger.history =
        before.history ++ past.flatMap Visit.ended ∧
      past.map Visit.collection <+: collections := by
  have h : Orderly collections before ((start query collections before).run calls).2 :=
    (orderly_invariant collections before).run calls (orderly_start query collections before)
  have hclose : Orderly collections before
      ((start query collections before).run calls).2.close.2 := h.closing
  obtain ⟨past, hledger, hpre⟩ := hclose.between (exhausted_close _).1
  refine ⟨past, by simpa [record] using hledger, ?_⟩
  simpa [visited] using (List.prefix_append _ _).trans hpre

/-- **A chain holds at most one cursor and closes what it opens.**  After any calls, answered by
errors or not:

* what has been put down since the start is visits one after another, each over before the next, to
  a prefix of the collections; the last is not over exactly if a collection is current;
* so one more cursor has been opened than closed if a collection is current, and as many if not;
* if the chain has been closed or is at its end, nothing is opened, read or closed any more, and
  closing again succeeds;
* when the chain is given up, every visit is over;
* if the cursors that the store hands out are open, it counts as many opened and closed as have been
  put down, before and after the chain is given up. -/
theorem run_visits (query : String → Except StoreError Rows) (collections : List String)
    (before : Ledger) (calls : List Call) :
    let c := ((start query collections before).run calls).2
    (∃ (past : List Visit) (now : Option Visit),
        now.map Visit.collection = c.collection? ∧
        c.ledger.history = before.history ++ record past now ∧
        visited past now <+: collections) ∧
      c.ledger.opened + before.closed =
        c.ledger.closed + before.opened + (if c.collection?.isSome then 1 else 0) ∧
      (.close ∈ calls ∨ c.Exhausted →
        ∀ later : List Call, c.run later = (later.map Call.atEnd, c)) ∧
      (∃ past : List Visit,
        c.drop.ledger.history = before.history ++ past.flatMap Visit.ended ∧
        past.map Visit.collection <+: collections) ∧
      c.drop.ledger.opened + before.closed = c.drop.ledger.closed + before.opened ∧
      (HandsOutOpen query →
        before.CountsAlike c.ledger ∧ before.CountsAlike c.drop.ledger) := by
  intro c
  have h : Orderly collections before c :=
    (orderly_invariant collections before).run calls (orderly_start query collections before)
  have hd : Orderly collections before c.drop := h.closing
  have hnone : c.drop.current = none := c.exhausted_close.1
  refine ⟨?_, h.counts, ?_, ?_, ?_, fun opens => ?_⟩
  · obtain ⟨past, now, hnow, hledger, hpre⟩ := h
    exact ⟨past, now, hnow, hledger, (List.prefix_append _ _).trans hpre⟩
  · intro hend
    refine run_of_exhausted ?_
    rcases hend with hclose | hend
    · exact exhausted_run calls _ hclose
    · exact hend
  · obtain ⟨past, hledger, hpre⟩ := hd.between hnone
    refine ⟨past, by simpa [record] using hledger, ?_⟩
    simpa [visited] using (List.prefix_append _ _).trans hpre
  · simpa [collection?, hnone] using hd.counts
  · have hc : Counted query before c := counted_run opens collections before calls
    exact ⟨hc.alike, hc.close.alike⟩

/-- **At most one cursor is open**, by the counts of a store that hands out open cursors. -/
theorem stillOpen_run {query : String → Except StoreError Rows} (opens : HandsOutOpen query)
    (collections : List String) (calls : List Call) :
    let c := ((start query collections .empty).run calls).2
    c.ledger.counts.stillOpen = if c.collection?.isSome then 1 else 0 := by
  intro c
  have alike : Ledger.empty.CountsAlike c.ledger :=
    (counted_run opens collections .empty calls).alike
  have hopened : c.ledger.counts.opened = c.ledger.opened :=
    alike.opened.trans (Nat.zero_add _)
  have hclosed : c.ledger.counts.closed = c.ledger.closed :=
    alike.closed.trans (Nat.zero_add _)
  have hcounts : c.ledger.opened = c.ledger.closed + if c.collection?.isSome then 1 else 0 :=
    Orderly.counts ((orderly_invariant collections .empty).run calls (orderly_start ..))
  rw [CursorCounts.stillOpen, hopened, hclosed, hcounts, Nat.add_sub_cancel_left]

/-- A chain of two collections, closed on the first, whose cursor cannot be released: the second is
never opened.  The store counts one cursor, and that it is closed. -/
theorem run_visits_failing_close :
    let query := fun name =>
      .ok (.ofList [.ok .empty, .error (.notText name)] (some (.closeFailed name)))
    let c := ((start query ["a", "b"] .empty).run [.read .hasNext, .close]).2
    Call.close ∈ [Call.read .hasNext, .close] ∧
      c.ledger.history = [.opened "a", .read "a", .closed "a"] ∧
      (∀ later : List Call, c.run later = (later.map Call.atEnd, c)) ∧
      HandsOutOpen query ∧ Ledger.empty.CountsAlike c.ledger ∧ c.ledger.counts = ⟨1, 1⟩ := by
  intro query c
  have opens : HandsOutOpen query := by
    intro name rows h
    obtain rfl := Except.ok.inj h
    rfl
  obtain ⟨-, -, final, -, -, counts⟩ := run_visits query ["a", "b"] .empty [.read .hasNext, .close]
  exact ⟨by decide, rfl, final (Or.inl (by decide)), opens, (counts opens).1, rfl⟩

end DocTables.Chain
