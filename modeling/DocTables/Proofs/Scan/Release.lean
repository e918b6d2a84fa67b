/-
# Cursors are released, whatever happens

A look-up of a table and a scan close every cursor that they open, however they come to their end,
and they succeed only if all of these could be closed (`Chain.Released`): the calls on their chain
are a run that ends with closing it, and a chain that has come through without an error has closed
every cursor without one (`released_of_run`).  A store that hands out open cursors has then counted
as many opened as closed.

An error that comes up on the way is the answer, also if closing fails after it: that of the sink
(`Scanner.run_of_failed_offer`), and the first of the stream once the sink has asked for as many
documents (`Scanner.run_of_broken_stream`).  `MemoryStore.cursors_released` puts this together for
stores in memory, where closing fails on some collections.
-/
import Mathlib
import DocTables.Proofs.Catalog.Sample
import DocTables.Proofs.Scan.Account

namespace DocTables

variable {σ : Type}

/-! ## 1. What it takes to release cursors -/

namespace Chain

variable {query : String → Except StoreError Rows} {collections : List String} {before : Ledger}

/-- What has been put down since is visits to collections that are over, and the store has counted
them if its cursors are open at first; if all went well, the cursors opened on them closed without
an error. -/
def Released (query : String → Except StoreError Rows) (before after : Ledger) (ok : Bool) : Prop :=
  ∃ visits : List Visit, after.history = before.history ++ visits.flatMap Visit.ended ∧
    (HandsOutOpen query → after.counts =
      ⟨before.counts.opened + visits.length, before.counts.closed + visits.length⟩) ∧
    (ok = true → ∀ v ∈ visits, Closes query v.collection)

/-- Where nothing has been done nothing is left to be released. -/
theorem released_self (query : String → Except StoreError Rows) (ledger : Ledger) (ok : Bool) :
    Released query ledger ledger ok :=
  ⟨[], (List.append_nil _).symm, fun _ => rfl, fun _ _ h => absurd h List.not_mem_nil⟩

/-- **A chain that is closed releases its cursors.**  Success takes that the chain has come to where
it is without an error and can be closed without one. -/
theorem released_of_run {calls : List Call} {ok : Bool}
    (success : ok = true →
      (∃ given, Progress query collections before given
        ((start query collections before).run calls).2) ∧
      ((start query collections before).run calls).2.close.1 = .ok ()) :
    Released query before ((start query collections before).run calls).2.close.2.ledger ok := by
  obtain ⟨visits, hhistory, -⟩ := close_visits query collections before calls
  refine ⟨visits, hhistory, fun opens => ?_, fun hok v hv => ?_⟩
  · exact counts_of_visits hhistory (counted_run opens collections before calls).close.alike
  obtain ⟨⟨given, progress⟩, closed⟩ := success hok
  -- The collections visited are those that have been opened on the way.
  obtain ⟨names, hnames, hcloses⟩ := progress.closes closed
  have hvisits := openings_of_visits hhistory
  rw [openings_close, hnames] at hvisits
  exact hcloses _ (List.append_cancel_left hvisits ▸ List.mem_map_of_mem hv)

/-- Documents at the front of a list are among those before its first error. -/
theorem documents_of_front {cause : CursorError} {later remaining : List Item} :
    ∀ {front documents : List Document},
      documents.map .ok ++ .error cause :: later = front.map .ok ++ remaining →
      ∃ more, documents = front ++ more ∧ remaining = more.map .ok ++ .error cause :: later
  | [], documents, h => ⟨documents, rfl, h.symm⟩
  | d :: front, [], h => by cases (List.cons.inj h).1
  | d :: front, d' :: documents, h => by
    obtain ⟨hd, htail⟩ := List.cons.inj h
    obtain rfl := Except.ok.inj hd
    obtain ⟨more, rfl, hremaining⟩ := documents_of_front htail
    exact ⟨more, rfl, hremaining⟩

/-- A sample releases its cursors. -/
theorem inferSchema_released (query : String → Except StoreError Rows) (collections : List String)
    (before : Ledger) (n : Nat) :
    Released query before ((start query collections before).inferSchema n).2
      ((start query collections before).inferSchema n).1.toBool := by
  obtain ⟨calls, hcalls⟩ := sampleInto_run n .empty (start query collections before)
  rw [inferSchema_ledger, hcalls]
  refine released_of_run fun hok => ?_
  rw [← hcalls]
  cases hs : ((start query collections before).inferSchema n).1 with
  | error e => simp [hs, Except.toBool] at hok
  | ok schema =>
    obtain ⟨documents, hitems, -⟩ := inferSchema_eq_ok hs
    refine ⟨⟨_, (sampleInto_stands (progress_start query collections before)
      (stands_start query collections before) hitems).1⟩, ?_⟩
    cases hc : ((start query collections before).sampleInto .empty n).2.close.1 with
    | ok u => rfl
    | error e =>
      rw [inferSchema_of_documents hitems hc] at hs
      cases hs

end Chain

/-- A look-up of a table releases its cursors. -/
theorem Catalog.table_released (c : Catalog) (ledger : Ledger) (database table : String) :
    Chain.Released (c.sampleQuery database) ledger (c.table ledger database table).2
      (c.table ledger database table).1.toBool := by
  cases hflagged : c.supplementalSchema? database table with
  | some schema =>
    have h : (c.table ledger database table).2 = ledger := by
      rw [Catalog.table, hflagged]
    rw [h]
    exact Chain.released_self _ _ _
  | none =>
    cases hres : c.patterns.resolve c.store database table with
    | error e =>
      have h : (c.table ledger database table).2 = ledger := by
        rw [Catalog.table, hflagged, inferredSchema, hres]
      rw [h]
      exact Chain.released_self _ _ _
    | ok collections =>
      obtain ⟨hanswer, hledger⟩ := table_of_unflagged hflagged hres ledger
      have hok : (c.table ledger database table).1.toBool =
          ((Chain.start (c.sampleQuery database) collections ledger).inferSchema
            c.sampleSize).1.toBool := by
        rw [hanswer]
        cases (Chain.inferSchema _ c.sampleSize).1 <;> rfl
      rw [hledger, hok]
      exact Chain.inferSchema_released _ collections ledger c.sampleSize

namespace Scanner

variable {s : Scanner} {table : String} {columns : List Column}

/-! ## 2. The chain of a scan -/

/-- What a scan does to its chain is a run of calls. -/
theorem readRows_run (s : Scanner) (sink : Sink σ) (table : String) (columns : List Column)
    (summary : ScanSummary) (chain : Chain) (state : σ) :
    ∃ calls : List Chain.Call,
      (s.readRows sink table columns summary chain state).2.1 = (chain.run calls).2 := by
  fun_induction readRows s sink table columns summary chain state with
  | case1 summary chain state state' hl => exact ⟨[], rfl⟩
  | case2 summary chain state state' hl e chain' hn =>
    exact ⟨[.read .hasNext], (congrArg Prod.snd hn).symm⟩
  | case3 summary chain state state' hl chain' hn =>
    exact ⟨[.read .hasNext], (congrArg Prod.snd hn).symm⟩
  | case4 summary chain state state' hl fetched hn hd =>
    exact ⟨[.read .iterate], (Chain.next?_of_hasNext hn).symm⟩
  | case5 summary chain state state' hl fetched hn captures d hd e state'' hr =>
    exact ⟨[.read .iterate], (Chain.next?_of_hasNext hn).symm⟩
  | case6 summary chain state state' hl fetched hn captures d hd summary' state'' hr ih =>
    obtain ⟨calls, h⟩ := ih
    refine ⟨.read .iterate :: calls, h.trans ?_⟩
    rw [← Chain.next?_of_hasNext hn]
    rfl

/-- A scan releases its cursors. -/
theorem run_released (s : Scanner) (request : ScanRequest) (sink : Sink σ) (state : σ)
    (ledger : Ledger) :
    Chain.Released (s.rowQuery request) ledger (s.run request sink state ledger).2.2
      (s.run request sink state ledger).1.toBool := by
  cases h : s.patterns.resolve s.store request.database request.source with
  | error e =>
    rw [run_of_resolve_error h]
    exact Chain.released_self _ _ _
  | ok collections =>
    rw [run_of_collections h]
    obtain ⟨calls, hrun⟩ := s.readRows_run sink request.source request.schema.columns .empty
      (.start (s.rowQuery request) collections ledger) state
    simp only [hrun]
    refine Chain.released_of_run fun hok => ?_
    rw [← hrun] at hok ⊢
    cases hscan : (s.readRows sink request.source request.schema.columns .empty
        (.start (s.rowQuery request) collections ledger) state).1 with
    | error e => simp [hscan, Except.bind, Except.toBool] at hok
    | ok summary =>
      obtain ⟨given, progress, -⟩ := readRows_handedOut (Chain.handedOut_start ..) hscan
      refine ⟨⟨given, progress⟩, ?_⟩
      cases hclose : (s.readRows sink request.source request.schema.columns .empty
        (.start (s.rowQuery request) collections ledger) state).2.1.close.1 with
      | ok u => rfl
      | error e => simp [hscan, hclose, Except.bind, Except.mapError, Except.toBool] at hok

end Scanner

/-! ## 3. Which error is the answer -/

/-- A sink that fails on an offer ends the row. -/
theorem Offers.of_failed {row row' : Nat} {value : Column → Value} {columns : List Column}
    {calls : List SinkCall} {result : Except ScanError Bool} {complex : Bool} {field : String}
    {v : Value} {reason : String} (offers : Offers row value columns calls result)
    (h : .offered complex field row' v (.error reason) ∈ calls) :
    result = .error (.field field reason) := by
  -- The offers before the last have been accepted.
  have accepted {part : List Column} :
      .offered complex field row' v (.error reason) ∉ part.map (offerOf row value (.ok true)) := by
    intro hm
    obtain ⟨column, -, hc⟩ := List.mem_map.mp hm
    simp [offerOf] at hc
  cases offers with
  | accepted => exact absurd h accepted
  | refused split =>
    rcases List.mem_append.mp h with h | h
    · exact absurd h accepted
    · simp [offerOf] at h
  | failed split =>
    rcases List.mem_append.mp h with h | h
    · exact absurd h accepted
    · obtain ⟨-, rfl, -, -, hreason⟩ := SinkCall.offered.inj (List.mem_singleton.mp h)
      obtain rfl := Except.error.inj hreason
      rfl

/-- It also ends the scan. -/
theorem Told.of_failed {value : Found → Column → Value} {columns : List Column}
    {summary : ScanSummary} {sources : List Found} {calls : List SinkCall}
    {result : Except ScanError ScanSummary} {complex : Bool} {field : String} {row : Nat}
    {v : Value} {reason : String} (told : Told value columns summary sources calls result)
    (h : .offered complex field row v (.error reason) ∈ calls) :
    result = .error (.field field reason) := by
  induction told with
  | stopped summary => simp at h
  | finished summary => simp at h
  | broken summary cause => simp at h
  | failed offers =>
    rcases List.mem_cons.mp h with h | h
    · cases h
    · simpa using offers.of_failed h
  | row offers _ ih =>
    simp only [List.cons_append, List.mem_cons, List.mem_append, reduceCtorEq, false_or] at h
    rcases h with h | h
    · cases offers.of_failed h
    · exact ih h

/-- How often the sink has let the scan go on. -/
def goAheads (calls : List SinkCall) : Nat :=
  calls.countP fun
    | .polled live => live
    | _ => false

theorem goAheads_append (calls later : List SinkCall) :
    goAheads (calls ++ later) = goAheads calls + goAheads later := List.countP_append

/-- A row is offered without a question. -/
theorem Offers.polled_notMem {row : Nat} {value : Column → Value} {columns : List Column}
    {calls : List SinkCall} {result : Except ScanError Bool}
    (offers : Offers row value columns calls result) (live : Bool) : .polled live ∉ calls := by
  cases offers <;> simp [offerOf]

theorem Offers.goAheads_eq {row : Nat} {value : Column → Value} {columns : List Column}
    {calls : List SinkCall} {result : Except ScanError Bool}
    (offers : Offers row value columns calls result) : goAheads (.polled true :: calls) = 1 := by
  cases offers <;> simp [goAheads, offerOf, List.countP_eq_zero]

theorem Offers.goAheads_row {row : Nat} {value : Column → Value} {columns : List Column}
    {calls : List SinkCall} {result : Except ScanError Bool}
    (offers : Offers row value columns calls result) (accepted : Bool) (later : List SinkCall) :
    goAheads (.polled true :: calls ++ .ended row accepted :: later) = goAheads later + 1 := by
  rw [goAheads_append, offers.goAheads_eq, Nat.add_comm]
  rfl

/-- The sink has let the scan go on once for each document, and once more if the chain has come to
its end or to an error. -/
theorem Told.goAheads_cases {value : Found → Column → Value} {columns : List Column}
    {summary : ScanSummary} {sources : List Found} {calls : List SinkCall}
    {result : Except ScanError ScanSummary}
    (told : Told value columns summary sources calls result) :
    goAheads calls = sources.length ∨
      goAheads calls = sources.length + 1 ∧
        (result.toBool = true ∧ .polled false ∉ calls ∨ ∃ cause, result = .error (.cursor cause)) := by
  induction told with
  | stopped summary => exact .inl rfl
  | finished summary => exact .inr ⟨rfl, .inl ⟨rfl, by simp⟩⟩
  | broken summary cause => exact .inr ⟨rfl, .inr ⟨cause, rfl⟩⟩
  | failed offers => exact .inl offers.goAheads_eq
  | row offers _ ih =>
    rw [offers.goAheads_row, List.length_cons]
    refine ih.imp (congrArg (· + 1)) fun ⟨hlater, hend⟩ => ⟨congrArg (· + 1) hlater, ?_⟩
    exact hend.imp_left fun ⟨ok, live⟩ => ⟨ok, by simp [offers.polled_notMem false, live]⟩

namespace Scanner

variable {s : Scanner} {table : String} {columns : List Column}

/-- **The sink's error is the answer**, whatever closing comes to. -/
theorem run_of_failed_offer {request : ScanRequest} {sink : Sink σ} {state : σ} {ledger : Ledger}
    {complex : Bool} {field : String} {row : Nat} {v : Value} {reason : String}
    (h : .offered complex field row v (.error reason) ∈ s.calls request sink state ledger) :
    (s.run request sink state ledger).1 = .error (.field field reason) := by
  cases hres : s.patterns.resolve s.store request.database request.source with
  | error e => simp [calls, run_of_resolve_error hres] at h
  | ok collections =>
    obtain ⟨read, left, scanned, -, told, -, ends⟩ := tells_of_gives hres .found sink state ledger
    obtain rfl := told.of_failed h
    generalize (s.run request sink state ledger).1 = result at ends
    cases ends
    rfl

/-- **The first error in reading is the answer**, whatever closing comes to, if the sink lets the
scan go on as far. -/
theorem run_of_broken_stream {request : ScanRequest} {sink : Sink σ} {state : σ} {ledger : Ledger}
    {collections : List String} {documents : List Document} {cause : CursorError}
    {later : List Chain.Item}
    (resolved : s.patterns.resolve s.store request.database request.source = .ok collections)
    (items : Chain.streamOf (s.rowQuery request) collections =
      documents.map .ok ++ .error cause :: later)
    (asked : documents.length < goAheads (s.calls request sink state ledger)) :
    (s.run request sink state ledger).1 = .error (.cursor cause) := by
  obtain ⟨read, left, calls, remaining, -, hitems, hlog, told, hall, hcause⟩ :=
    s.readRows_recorded sink request.source request.schema.columns .empty
      (.start (s.rowQuery request) collections ledger) (state, [])
  rw [Scanner.calls, run_of_collections resolved, hlog, List.nil_append] at asked
  -- What has been read is in front of the error, and no more has been asked for than that.
  obtain ⟨more, hdocuments, rfl⟩ := Chain.documents_of_front (items.symm.trans hitems)
  have hlength : documents.length = read.length + more.length := by
    rw [hdocuments, List.length_append, List.length_map]
  have hscan : (s.readRows sink.recorded request.source request.schema.columns .empty
      (.start (s.rowQuery request) collections ledger) (state, [])).1 = .error (.cursor cause) := by
    obtain hgo | ⟨hgo, hend⟩ := told.goAheads_cases
    · omega
    · obtain rfl : more = [] := List.length_eq_zero_iff.mp (by omega)
      obtain ⟨ok, live⟩ | ⟨cause', hbroken⟩ := hend
      · cases (hall ok live).2
      · obtain ⟨_, hfirst⟩ := hcause cause' hbroken
        obtain rfl : cause = cause' := Except.error.inj (List.cons.inj hfirst).1
        exact hbroken
  rw [← run_recorded, run_of_collections resolved]
  simp only [hscan, Prod.map]
  rfl

end Scanner

/-! ## 4. Stores in memory -/

namespace MemoryStore

/-- What has been put down since is visits to collections that are over, each of which the store has
counted as a cursor opened and closed; if all went well, closing fails on none of these. -/
def Released (m : MemoryStore) (before after : Ledger) (ok : Bool) : Prop :=
  ∃ visits : List Chain.Visit, after.history = before.history ++ visits.flatMap Chain.Visit.ended ∧
    after.counts =
      ⟨before.counts.opened + visits.length, before.counts.closed + visits.length⟩ ∧
    (ok = true → ∀ v ∈ visits, v.collection ∉ m.failingClose)

/-- A cursor on a store in memory is open, and closing it fails on the collections said. -/
theorem of_find_eq_ok {m : MemoryStore} {database collection : String} {q : Query} {rows : Rows}
    (h : m.find database collection q = .ok rows) :
    rows.closed = false ∧ (rows.close.1 = .ok () ↔ collection ∉ m.failingClose) := by
  simp only [find, bind, Except.bind] at h
  split at h
  · cases h
  · split at h
    · obtain rfl := Except.ok.inj h
      refine ⟨rfl, ?_⟩
      by_cases hmem : collection ∈ m.failingClose <;> simp [Rows.ofList, Rows.close, hmem]
    · cases h

theorem released_of_released {m : MemoryStore} {store : Store} (hstore : store = m.toStore)
    {database : String} {q : Query} {before after : Ledger} {ok : Bool}
    (h : Chain.Released (fun name => store.find database name q) before after ok) :
    m.Released before after ok := by
  obtain ⟨visits, hhistory, hcounts, hcloses⟩ := h
  obtain rfl := hstore
  refine ⟨visits, hhistory, hcounts fun _ _ hrows => (of_find_eq_ok hrows).1, fun hok v hv => ?_⟩
  obtain ⟨rows, hrows, hclose⟩ := hcloses hok v hv
  exact (of_find_eq_ok hrows).2.mp hclose

/-- **Cursors on a store in memory are released, whatever happens.**  For a store on some of whose
collections closing fails, for all catalogs and scanners of it and all that is asked of them:

* every cursor that was opened is closed in the end, the store has counted as many closed as opened,
  and the answer is good only if closing has failed on none of them;
* an error among the items that a sample takes in is the answer, and so is an error of the sink of a
  scan, and the first error of the stream if the sink has asked for more documents than come before
  it. -/
theorem cursors_released (m : MemoryStore) :
    (∀ (c : Catalog) (ledger : Ledger) (database table : String), c.store = m.toStore →
      m.Released ledger (c.table ledger database table).2
        (c.table ledger database table).1.toBool ∧
      ∀ (collections : List String) (documents : List Document) (cause : CursorError)
        (later : List Chain.Item), c.supplementalSchema? database table = none →
        c.patterns.resolve c.store database table = .ok collections →
        (Chain.streamOf (c.sampleQuery database) collections).take c.sampleSize =
          documents.map .ok ++ .error cause :: later →
        (c.table ledger database table).1 = .error (.cursor cause)) ∧
    ∀ (s : Scanner) (request : ScanRequest) {σ : Type} (sink : Sink σ) (state : σ)
      (ledger : Ledger), s.store = m.toStore →
      m.Released ledger (s.run request sink state ledger).2.2
        (s.run request sink state ledger).1.toBool ∧
      (∀ complex field row v reason,
        .offered complex field row v (.error reason) ∈ s.calls request sink state ledger →
        (s.run request sink state ledger).1 = .error (.field field reason)) ∧
      ∀ (collections : List String) (documents : List Document) (cause : CursorError)
        (later : List Chain.Item),
        s.patterns.resolve s.store request.database request.source = .ok collections →
        Chain.streamOf (s.rowQuery request) collections =
          documents.map .ok ++ .error cause :: later →
        documents.length < goAheads (s.calls request sink state ledger) →
        (s.run request sink state ledger).1 = .error (.cursor cause) := by
  constructor
  · intro c ledger database table hstore
    refine ⟨released_of_released hstore (c.table_released ledger database table), ?_⟩
    intro collections documents cause later unflagged resolved items
    rw [(Catalog.table_of_unflagged unflagged resolved ledger).1, Chain.inferSchema_of_error items]
    rfl
  · intro s request σ sink state ledger hstore
    refine ⟨released_of_released hstore (s.run_released request sink state ledger), ?_, ?_⟩
    · intro complex field row v reason h
      exact Scanner.run_of_failed_offer h
    · intro collections documents cause later resolved items asked
      exact Scanner.run_of_broken_stream resolved items asked

/-- A store with a collection of one document, on which closing fails. -/
def brittle : MemoryStore :=
  (MemoryStore.empty.insertMany "db" "a" [⟨[("v", .int32 1)]⟩]).failCloseOn "a"

/-- A sink that has no room. -/
def fullSink : Sink Unit where
  offer _ _ _ _ := (.error "full", ())
  offerComplex _ _ _ _ := (.error "full", ())
  endRow _ _ _ := ()
  isLive _ := (true, ())

/-- The request for the field of the document. -/
def brittleRequest : ScanRequest := ⟨"db", "a", .ofColumns [.ofKind "v" .int32], .empty⟩

/-- Where closing fails on its collection, a scan answers with the error of its sink if there is
one, and else with that of closing; so does the look-up of the table.  All cursors are closed. -/
theorem cursors_released_brittle :
    let s : Scanner := ⟨brittle.toStore, ⟨[]⟩, true⟩
    let c : Catalog := .ofConfig brittle.toStore .default
    let full := s.run brittleRequest fullSink () .empty
    let collected := s.run brittleRequest RowBuffer.sink .empty .empty
    s.store = brittle.toStore ∧ c.store = brittle.toStore ∧
      full.1 = .error (.field "v" "full") ∧ brittle.Released .empty full.2.2 full.1.toBool ∧
      collected.1 = .error (.cursor (.closeFailed "a" (.closeFailed "a"))) ∧
      (c.table .empty "db" "a").1 = .error (.cursor (.closeFailed "a" (.closeFailed "a"))) := by
  intro s c full collected
  obtain ⟨tables, scans⟩ := cursors_released brittle
  obtain ⟨released, failed, -⟩ := scans s brittleRequest fullSink () .empty rfl
  obtain ⟨-, -, broken⟩ := scans s brittleRequest RowBuffer.sink .empty .empty rfl
  obtain ⟨-, sampled⟩ := tables c .empty "db" "a" rfl
  have resolved : s.patterns.resolve s.store "db" "a" = .ok ["a"] := by cbv
  have hcalls : s.calls brittleRequest fullSink () .empty =
      [.polled true, .offered false "v" 0 (.int32 1) (.error "full")] := by cbv
  have asked : goAheads (s.calls brittleRequest RowBuffer.sink .empty .empty) = 2 := by cbv
  refine ⟨rfl, rfl, failed false "v" 0 (.int32 1) "full" ?_, released, ?_, ?_⟩
  · rw [hcalls]
    exact List.mem_cons_of_mem _ List.mem_cons_self
  · exact broken ["a"] [⟨[("v", .int32 1)]⟩] _ [] resolved rfl (by rw [asked]; decide)
  · exact sampled ["a"] [⟨[("v", .int32 1)]⟩] _ [] rfl (by cbv) rfl

end MemoryStore

end DocTables
