/-
# Projections do not show

A scan that compares names ignoring case asks its store for the columns of the schema only.  The
sink cannot tell: the scan comes to the same as one that is given whole documents
(`Scanner.run_whole`), and `projection_unseen` puts this together with what look-ups of columns find
in a document that has been cut.

The stores have to keep to what is asked of them: what a store finds is what it finds without a
projection, cut to it (`Store.Projects`).  A store that answers from what it holds does so; the
filter is then applied to whole documents.

The two scans are run side by side.  A chain over cut documents (`Chain.cut`) makes the moves of the
chain over whole ones, and a row has the same values in both.
-/
import Mathlib
import DocTables.Proofs.Scan.Account

namespace DocTables

variable {σ : Type}

/-! ## 1. Cut documents -/

namespace Rows

/-- The cursor with its documents cut. -/
def cut (f : Document → Document) (r : Rows) : Rows :=
  { r with pending := r.pending.map (·.map f) }

theorem toList_cut (f : Document → Document) (r : Rows) :
    (r.cut f).toList = r.toList.map (·.map f) := by
  unfold toList cut
  cases r.closed <;> rfl

theorem next_cut (f : Document → Document) (r : Rows) :
    (r.cut f).next = (r.next.1.map (·.map f), r.next.2.cut f) := by
  rw [next, next, toList_cut]
  cases r.toList <;> rfl

theorem close_cut (f : Document → Document) (r : Rows) :
    (r.cut f).close = (r.close.1, r.close.2.cut f) := by
  obtain ⟨pending, closeFailure, closed⟩ := r
  cases closed <;> cases closeFailure <;> rfl

end Rows

/-- Cut documents are not seen by the counts. -/
theorem Ledger.closing_cut (l : Ledger) (collection : String) (f : Document → Document) (r : Rows) :
    l.closing collection (r.cut f) = l.closing collection r := by
  simp only [closing, CursorCounts.addClosing, Rows.closed_close]
  rfl

namespace Chain

/-- The collection with its documents cut. -/
def Current.cut (f : Document → Document) (on : Current) : Current :=
  ⟨on.collection, on.rows.cut f, on.peeked.map f⟩

/-- The chain with its documents cut, those of collections to come as well. -/
def cut (f : Document → Document) (c : Chain) : Chain where
  query name := (c.query name).map (Rows.cut f)
  current := c.current.map (Current.cut f)
  upcoming := c.upcoming
  ledger := c.ledger

/-- What fetching comes to, with documents cut. -/
def Fetch.cut (f : Document → Document) : Fetch → Fetch
  | .found on => .found (on.cut f)
  | .failed e on => .failed e (on.cut f)
  | .ended => .ended

variable (f : Document → Document)

theorem fetch_cut (on : Current) (ledger : Ledger) :
    (on.cut f).fetch ledger = ((on.fetch ledger).1.cut f, (on.fetch ledger).2) := by
  obtain ⟨collection, rows, peeked⟩ := on
  cases peeked with
  | some d => rfl
  | none =>
    simp only [Current.fetch, Current.cut, Option.map_none, Rows.next_cut]
    rcases rows.next with ⟨_ | e | d, rows'⟩ <;> rfl

theorem openNext_cut (query : String → Except StoreError Rows) :
    ∀ (names : List String) (ledger : Ledger),
      openNext (fun name => (query name).map (Rows.cut f)) ledger names =
        ((openNext query ledger names).1, (openNext query ledger names).2.cut f)
  | [], ledger => rfl
  | name :: rest, ledger => by
    rw [openNext, openNext]
    cases query name with
    | error e => rfl
    | ok rows =>
      have hfetch := fetch_cut f ⟨name, rows, none⟩ (ledger.opening name)
      simp only [Except.map, Current.cut, Option.map_none] at hfetch ⊢
      rw [hfetch]
      obtain ⟨fetch, ledger⟩ := Current.fetch ⟨name, rows, none⟩ (ledger.opening name)
      cases fetch with
      | found on | failed e on => rfl
      | ended =>
        simp only [Fetch.cut, Rows.close_cut, Ledger.closing_cut]
        cases rows.close.1 with
        | ok u => exact openNext_cut query rest _
        | error e => rfl

theorem release_cut (c : Chain) :
    (c.cut f).release = (c.release.1, c.release.2.cut f) := by
  obtain ⟨query, current, upcoming, ledger⟩ := c
  cases current with
  | none => rfl
  | some on =>
    simp only [release, cut, Option.map_some, Current.cut, Rows.close_cut, Ledger.closing_cut]
    cases on.rows.close.1 <;> rfl

theorem close_cut (c : Chain) : (c.cut f).close = (c.close.1, c.close.2.cut f) := by
  rw [close, close, release_cut]
  rfl

/-- **The step.**  A chain over cut documents does what the chain over whole ones does. -/
theorem hasNext_cut (c : Chain) : (c.cut f).hasNext = (c.hasNext.1, c.hasNext.2.cut f) := by
  obtain ⟨query, current, upcoming, ledger⟩ := c
  cases current with
  | none => exact openNext_cut f query upcoming ledger
  | some on =>
    have hfetch := fetch_cut f on ledger
    simp only [hasNext, cut, Option.map_some]
    rw [hfetch]
    obtain ⟨fetch, ledger⟩ := on.fetch ledger
    cases fetch with
    | found on | failed e on => rfl
    | ended =>
      have hrelease := release_cut f ⟨query, some on, upcoming, ledger⟩
      simp only [cut, Option.map_some] at hrelease
      simp only [Fetch.cut]
      rw [hrelease]
      obtain ⟨released, c⟩ := release ⟨query, some on, upcoming, ledger⟩
      cases released with
      | ok u => exact openNext_cut f c.query c.upcoming c.ledger
      | error e => rfl

theorem take_cut (c : Chain) : (c.cut f).take = (c.take.1.map f, c.take.2.cut f) := by
  obtain ⟨query, current, upcoming, ledger⟩ := c
  cases current <;> rfl

theorem collection?_cut (c : Chain) : (c.cut f).collection? = c.collection? := by
  obtain ⟨query, current, upcoming, ledger⟩ := c
  cases current <;> rfl

end Chain

/-! ## 2. Stores that find whole documents -/

namespace Store

/-- The store that finds whole documents, whatever fields are asked for. -/
def whole (store : Store) : Store :=
  { store with find := fun database collection q =>
      store.find database collection { q with projection := none } }

/-- What the store finds is what it finds without a projection, cut to it. -/
def Projects (store : Store) : Prop :=
  ∀ database collection q,
    store.find database collection q =
      (store.whole.find database collection q).map (Rows.cut q.shape)

/-- A store that answers from what it holds keeps to the projection, after the filter. -/
theorem Serves.projects {store : Store} {held : String → String → Except StoreError Held}
    (h : store.Serves held) : store.Projects := by
  intro database collection q
  simp only [whole]
  rw [h, h]
  cases held database collection with
  | error e => rfl
  | ok content =>
    have hrows : Rows.ofQuery q content.rows =
        (Rows.ofQuery { q with projection := none } content.rows).map (·.map q.shape) := by
      rw [Rows.ofQuery, Rows.ofQuery, List.map_map]
      refine List.map_congr_left fun row _ => ?_
      cases row <;> rfl
    simp only [Except.map, Rows.cut, Rows.ofList, hrows]

end Store

/-! ## 3. Scans over cut documents -/

namespace Scanner

theorem offerAll_congr (sink : Sink σ) (row : Nat) {value value' : Column → Value} :
    ∀ (columns : List Column) (state : σ), (∀ column ∈ columns, value column = value' column) →
      offerAll sink row value state columns = offerAll sink row value' state columns
  | [], _, _ => rfl
  | column :: rest, state, h => by
    rw [offerAll, offerAll, h column List.mem_cons_self]
    rcases offer sink state row column (value' column) with ⟨_ | _ | _, state⟩
    · rfl
    · rfl
    · exact offerAll_congr sink row rest state fun c hc => h c (List.mem_cons_of_mem _ hc)

theorem offerRow_congr (sink : Sink σ) (summary : ScanSummary) {value value' : Column → Value}
    {columns : List Column} (h : ∀ column ∈ columns, value column = value' column) (state : σ) :
    offerRow sink summary value state columns = offerRow sink summary value' state columns := by
  rw [offerRow, offerRow, offerAll_congr sink summary.rows columns state h]

/-- The scanner that is given whole documents. -/
def whole (s : Scanner) : Scanner := { s with store := s.store.whole }

/-- **The loop of a scan** does not see what has been cut off, if the columns do not show it. -/
theorem readRows_cut (s : Scanner) {f : Document → Document} (sink : Sink σ) (table : String)
    {columns : List Column}
    (unseen : ∀ captures d, ∀ column ∈ columns,
      s.value captures (f d) column = s.value captures d column)
    (summary : ScanSummary) (chain : Chain) (state : σ) :
    s.readRows sink table columns summary (chain.cut f) state =
      ((s.whole.readRows sink table columns summary chain state).1,
        (s.whole.readRows sink table columns summary chain state).2.1.cut f,
        (s.whole.readRows sink table columns summary chain state).2.2) := by
  have hnext {chain chain' : Chain} {answer : Except CursorError Bool}
      (hn : chain.hasNext = (answer, chain')) :
      (chain.cut f).hasNext = (answer, chain'.cut f) := by
    rw [Chain.hasNext_cut, hn]
  have hrow {summary : ScanSummary} {collection : Option String} {d : Document} {state : σ}
      {result : Except ScanError ScanSummary × σ}
      (hr : offerRow sink summary (s.whole.value (s.whole.captures table collection) d) state
        columns = result) :
      offerRow sink summary (s.value (s.captures table collection) (f d)) state columns = result :=
    (offerRow_congr sink summary (unseen (s.captures table collection) d) state).trans hr
  fun_induction readRows s.whole sink table columns summary chain state with
  | case1 summary chain state state' hl => rw [readRows_eq, hl]
  | case2 summary chain state state' hl e chain' hn => rw [readRows_eq, hl, hnext hn]
  | case3 summary chain state state' hl chain' hn => rw [readRows_eq, hl, hnext hn]
  | case4 summary chain state state' hl fetched hn hd =>
    rw [readRows_eq, hl, hnext hn]
    simp only [Chain.take_cut, hd, Option.map_none]
  | case5 summary chain state state' hl fetched hn captures d hd e state'' hr =>
    rw [readRows_eq, hl, hnext hn]
    simp only [Chain.take_cut, hd, Option.map_some, Chain.collection?_cut, hrow hr]
  | case6 summary chain state state' hl fetched hn captures d hd summary' state'' hr ih =>
    rw [readRows_eq, hl, hnext hn]
    simp only [Chain.take_cut, hd, Option.map_some, Chain.collection?_cut, hrow hr]
    exact ih

/-- A scan comes to the same as one that is given whole documents. -/
theorem run_whole {s : Scanner} (projects : s.store.Projects) (request : ScanRequest)
    (sink : Sink σ) (state : σ) (ledger : Ledger) :
    s.run request sink state ledger = s.whole.run request sink state ledger := by
  have hresolve : s.whole.patterns.resolve s.whole.store request.database request.source =
      s.patterns.resolve s.store request.database request.source := rfl
  unfold run
  rw [hresolve]
  cases s.patterns.resolve s.store request.database request.source with
  | error e => rfl
  | ok collections =>
    -- The chain of the scan is that over whole documents, cut to the columns.
    have hchain : Chain.ofStore s.store request.database (request.query (!s.ignoreCase)) collections
        ledger = (Chain.ofStore s.whole.store request.database (request.query (!s.ignoreCase))
          collections ledger).cut (request.query (!s.ignoreCase)).shape := by
      refine congrArg (Chain.start · collections ledger) (funext fun collection => ?_)
      exact projects request.database collection _
    have hloop := readRows_cut s sink request.source
      (fun captures d column hc => s.value_shape request captures d hc) .empty
      (Chain.ofStore s.whole.store request.database (request.query (!s.ignoreCase)) collections
        ledger) state
    simp only [hchain, hloop, Chain.close_cut]
    rfl

/-- **A projection to the columns of a schema does not show.**

* Look-ups of its columns find the same in a document that has been cut to the projection as in the
  document, under exact names and ignoring case.
* The stores cut documents after they have applied the filter to whole ones.
* Over any such store, whatever is asked for and whatever the sink answers, a scan makes the calls
  and comes to the end that it would if the store found whole documents. -/
theorem projection_unseen :
    (∀ (schema : Schema) (d : Document), ∀ column ∈ schema.names,
      (Query.project schema.projection d).getIgnoreCase? column = d.getIgnoreCase? column ∧
        (Query.project schema.projection d).get? column = d.get? column) ∧
      (∀ m : MemoryStore, m.toStore.Projects) ∧
      (∀ j : JsonLinesStore, j.toStore.Projects) ∧
      ∀ s : Scanner, s.store.Projects →
        ∀ (request : ScanRequest) {σ : Type} (sink : Sink σ) (state : σ) (ledger : Ledger),
          s.calls request sink state ledger = s.whole.calls request sink state ledger ∧
            s.run request sink state ledger = s.whole.run request sink state ledger := by
  refine ⟨?_, ?_, ?_, ?_⟩
  · intro schema d column h
    exact ⟨Query.getIgnoreCase?_project schema d h, Query.get?_project schema d h⟩
  · exact fun m => m.serves.projects
  · exact fun j => j.serves.projects
  · intro s projects request σ sink state ledger
    exact ⟨congrArg (·.2.1.2) (run_whole projects request sink.recorded (state, []) ledger),
      run_whole projects request sink state ledger⟩

/-- A document with a name in several cases, none of them that of the column. -/
def variedCase : Document := .ofList [("_id", .int32 7), ("V", .int32 1), ("b", .int32 2)]

/-- The store of this document. -/
def variedStore : MemoryStore := MemoryStore.empty.insertMany "db" "a" [variedCase]

/-- Cut to the column `v`, the document has lost its field `b`; a scan for `b = 2` still finds it,
and offers the field `V` for the column. -/
theorem projection_unseen_variedCase :
    let schema : Schema := .ofColumns [.ofKind "v" .int32]
    let s : Scanner := ⟨variedStore.toStore, ⟨[]⟩, true⟩
    let request : ScanRequest := ⟨"db", "a", schema, .ofList [("b", .int32 2)]⟩
    "v" ∈ schema.names ∧ s.store.Projects ∧
      (Query.project schema.projection variedCase).keys = ["_id", "V"] ∧
      (Query.project schema.projection variedCase).getIgnoreCase? "v" = some (.int32 1) ∧
      s.calls request RowBuffer.sink .empty .empty =
        [.polled true, .offered false "v" 0 (.int32 1) (.ok true), .ended 0 true, .polled true] := by
  intro schema s request
  obtain ⟨lookup, memory, -, scan⟩ := projection_unseen
  have hcalls : s.whole.calls request RowBuffer.sink .empty .empty =
      [.polled true, .offered false "v" 0 (.int32 1) (.ok true), .ended 0 true, .polled true] := by
    cbv
  refine ⟨by decide, memory variedStore, rfl, ?_, ?_⟩
  · rw [(lookup schema variedCase "v" (by decide)).1]
    rfl
  · rw [(scan s (memory variedStore) request RowBuffer.sink .empty .empty).1, hcalls]

end Scanner

end DocTables
