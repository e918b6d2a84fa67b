/-
# The account of a scan

What a whole scan tells its sink.  The documents are those of the collections of the table, one
collection after another, as far as the filter lets them pass (`Scanner.Gives`): as the store finds
them (`Scanner.found`) or, for a store that answers from what it holds, as they are held
(`Scanner.wanted`).  `run_tells` says that the scan reads a front part of them, all of them if
nothing fails and the sink does not ask for an end, and tells its sink of each as `Told` has it.

How it ends is known from the number of documents that it has read (`Scanner.Ends`): an error of a
cursor is the one that comes after them in the stream of the collections, and an error of closing is
that of the collection which has supplied the last.

The projection of the query does not show: the columns of the schema have the same values in what
the store cuts out of a document as in the document (`cell_shaped`).
-/
import DocTables.Proofs.Chain.Progress
import DocTables.Proofs.Scan.Calls
import DocTables.Proofs.Store.Held

namespace DocTables

variable {σ : Type}

/-! ## 1. Values that agree -/

theorem Offers.congr {row : Nat} {value value' : Column → Value} {columns : List Column}
    {calls : List SinkCall} {result : Except ScanError Bool}
    (h : ∀ column ∈ columns, value column = value' column)
    (offers : Offers row value columns calls result) : Offers row value' columns calls result := by
  have hmap {part : List Column} (hpart : ∀ column ∈ part, column ∈ columns) :
      part.map (offerOf row value (.ok true)) = part.map (offerOf row value' (.ok true)) := by
    refine List.map_congr_left fun column hc => ?_
    rw [offerOf, offerOf, h column (hpart column hc)]
  cases offers with
  | accepted =>
    rw [hmap fun _ hc => hc]
    exact .accepted
  | @refused before after column split =>
    rw [hmap fun _ hc => by simp [split, hc], offerOf, h column (by simp [split])]
    exact .refused split
  | @failed before after column reason split =>
    rw [hmap fun _ hc => by simp [split, hc], offerOf, h column (by simp [split])]
    exact .failed split

/-- Documents may stand for others that give the columns the same values. -/
theorem Told.of_map {value value' : Found → Column → Value} {columns : List Column}
    {f : Found → Found}
    (h : ∀ source, ∀ column ∈ columns, value (f source) column = value' source column)
    {summary : ScanSummary} {sources : List Found} {calls : List SinkCall}
    {result : Except ScanError ScanSummary}
    (told : Told value columns summary (sources.map f) calls result) :
    Told value' columns summary sources calls result := by
  generalize hmap : sources.map f = mapped at told
  induction told generalizing sources with
  | stopped summary =>
    obtain rfl := List.map_eq_nil_iff.mp hmap
    exact .stopped summary
  | finished summary =>
    obtain rfl := List.map_eq_nil_iff.mp hmap
    exact .finished summary
  | broken summary cause =>
    obtain rfl := List.map_eq_nil_iff.mp hmap
    exact .broken summary cause
  | failed offers =>
    obtain ⟨source, rest, rfl, rfl, hrest⟩ := List.map_eq_cons_iff.mp hmap
    obtain rfl := List.map_eq_nil_iff.mp hrest
    exact .failed (offers.congr (h source))
  | row offers _ ih =>
    obtain ⟨source, rest, rfl, rfl, hrest⟩ := List.map_eq_cons_iff.mp hmap
    exact .row (offers.congr (h source)) (ih hrest)

/-- What a scan that goes well has counted. -/
theorem Told.documents_eq {value : Found → Column → Value} {columns : List Column}
    {summary : ScanSummary} {sources : List Found} {calls : List SinkCall}
    {result : Except ScanError ScanSummary}
    (told : Told value columns summary sources calls result) :
    ∀ total : ScanSummary, result = .ok total →
      total.documents = summary.documents + sources.length := by
  induction told with
  | stopped summary | finished summary =>
    intro total htotal
    obtain rfl := Except.ok.inj htotal
    rfl
  | broken summary cause | failed offers =>
    intro total htotal
    cases htotal
  | row offers _ ih =>
    intro total htotal
    rw [ih total htotal, ScanSummary.next, List.length_cons, Nat.add_assoc, Nat.add_comm 1]

/-- A loop fails by its sink or by its chain. -/
theorem Told.error_cases {value : Found → Column → Value} {columns : List Column}
    {summary : ScanSummary} {sources : List Found} {calls : List SinkCall}
    {result : Except ScanError ScanSummary} {e : ScanError}
    (told : Told value columns summary sources calls result) (h : result = .error e) :
    (∃ field reason, e = .field field reason) ∨ ∃ cause, e = .cursor cause := by
  induction told with
  | stopped summary | finished summary => cases h
  | broken summary cause =>
    obtain rfl := Except.error.inj h
    exact .inr ⟨cause, rfl⟩
  | failed offers =>
    obtain rfl := Except.error.inj h
    cases offers
    exact .inl ⟨_, _, rfl⟩
  | row offers others ih => exact ih h

/-! ## 2. The documents of a scan -/

namespace Scanner

/-- How the collections of a request are opened. -/
def rowQuery (s : Scanner) (request : ScanRequest) : String → Except StoreError Rows :=
  fun collection => s.store.find request.database collection (request.query (!s.ignoreCase))

/-- The documents that the store finds in collections. -/
def found (s : Scanner) (request : ScanRequest) (collections : List String) : List Found :=
  collections.flatMap <| foundIn fun collection =>
    s.store.find request.database collection (request.query (!s.ignoreCase))

/-- The documents that are held in a collection and have the values that the request asks for. -/
def wantedIn (request : ScanRequest) (held : String → String → Except StoreError Held)
    (collection : String) : List Found :=
  match held request.database collection with
  | .ok h => ((Rows.documentsOf h.rows).filter (Query.satisfies · request.filter)).map
      (⟨collection, ·⟩)
  | .error _ => []

/-- The documents of a request in collections, as they are held. -/
def wanted (request : ScanRequest) (held : String → String → Except StoreError Held)
    (collections : List String) : List Found :=
  collections.flatMap (wantedIn request held)

/-- A document as it is found. -/
def shaped (s : Scanner) (request : ScanRequest) (source : Found) : Found :=
  ⟨source.collection, (request.query (!s.ignoreCase)).shape source.document⟩

theorem selects_query (request : ScanRequest) (whole : Bool) :
    (request.query whole).selects = (Query.satisfies · request.filter) := by
  funext d
  unfold Query.selects ScanRequest.query
  cases he : request.filter.isEmpty with
  | false => rfl
  | true =>
    have hnil : request.filter.entries = [] := by simpa [Fields.isEmpty] using he
    simp [Query.satisfies, hnil]

/-- What a store finds that answers from what it holds. -/
theorem found_eq {s : Scanner} {held : String → String → Except StoreError Held}
    (h : s.store.Serves held) (request : ScanRequest) (collections : List String) :
    s.found request collections = (wanted request held collections).map (s.shaped request) := by
  rw [found, wanted, List.map_flatMap]
  congr 1
  funext collection
  rw [foundIn, wantedIn, h]
  cases held request.database collection with
  | error e => rfl
  | ok content =>
    have hlimit : (request.query (!s.ignoreCase)).limit = none := rfl
    simp [Except.map, Rows.documents, Rows.toList, Rows.ofList, Rows.documentsOf_ofQuery hlimit,
      selects_query, shaped]

/-- The projection does not show in the columns of the schema. -/
theorem value_shape (s : Scanner) (request : ScanRequest) (captures : Dictionary) (d : Document)
    {column : Column} (h : column ∈ request.schema.columns) :
    s.value captures ((request.query (!s.ignoreCase)).shape d) column =
      s.value captures d column := by
  have hname : column.name ∈ request.schema.names := List.mem_map_of_mem h
  have hfield : s.field? ((request.query (!s.ignoreCase)).shape d) column.name =
      s.field? d column.name := by
    unfold field?
    cases hi : s.ignoreCase with
    | false => rfl
    | true => exact Query.getIgnoreCase?_project request.schema d hname
  unfold value
  rw [hfield]

theorem cell_shaped (s : Scanner) (request : ScanRequest) (table : String) (source : Found)
    {column : Column} (h : column ∈ request.schema.columns) :
    s.cell table (s.shaped request source) column = s.cell table source column := by
  rw [← s.value_eq_cell table (s.shaped request source) rfl, ← s.value_eq_cell table source rfl]
  exact s.value_shape request _ source.document h

/-- The documents of a request in collections: as the store finds them or, if it answers from what
it holds, as they are held. -/
inductive Gives (s : Scanner) (request : ScanRequest) (collections : List String) :
    List Found → Prop
  | found : Gives s request collections (s.found request collections)
  | held {held : String → String → Except StoreError Held} (serves : s.store.Serves held) :
      Gives s request collections (wanted request held collections)

end Scanner

/-! ## 3. Scans -/

/-- A scanner of the tables of a catalog. -/
def Catalog.scanner (c : Catalog) (ignoreCase : Bool) : Scanner := ⟨c.store, c.patterns, ignoreCase⟩

namespace Scanner

/-- What comes of a scan whose loop has read `n` documents of collections, given what comes of the
loop. -/
inductive Ends (query : String → Except StoreError Rows) (collections : List String) (n : Nat) :
    Except ScanError ScanSummary → Except ScanError ScanSummary → Prop
  /-- The sink has failed. -/
  | refused {field reason : String} :
      Ends query collections n (.error (.field field reason)) (.error (.field field reason))
  /-- The first error of the stream comes after the documents. -/
  | broken {documents : List Document} {cause : CursorError} {later : List Chain.Item}
      (items : Chain.streamOf query collections = documents.map .ok ++ .error cause :: later)
      (read : documents.length = n) :
      Ends query collections n (.error (.cursor cause)) (.error (.cursor cause))
  /-- The cursor on the collection of the last document, if it is open then, can be closed. -/
  | closed {summary : ScanSummary}
      (closes : ∀ cause, ¬Chain.CloseFails query collections n cause) :
      Ends query collections n (.ok summary) (.ok summary)
  /-- The cursor on the collection of the last document cannot be closed. -/
  | closeFailed {summary : ScanSummary} {cause : CursorError}
      (failed : Chain.CloseFails query collections n cause) :
      Ends query collections n (.ok summary) (.error (.cursor cause))

/-- What a scan of collections tells its sink if it has these documents to read, and what comes of
it. -/
def Tells (s : Scanner) (request : ScanRequest) (collections : List String) (sources : List Found)
    (calls : List SinkCall) (result : Except ScanError ScanSummary) : Prop :=
  ∃ (read left : List Found) (scanned : Except ScanError ScanSummary),
    sources = read ++ left ∧
    Told (s.cell request.source) request.schema.columns .empty read calls scanned ∧
    (scanned.toBool = true → .polled false ∉ calls → left = []) ∧
    Ends (s.rowQuery request) collections read.length scanned result

theorem Tells.of_found {s : Scanner} {request : ScanRequest} {collections : List String}
    {sources : List Found} (gives : s.Gives request collections sources) {calls : List SinkCall}
    {result : Except ScanError ScanSummary}
    (tells : s.Tells request collections (s.found request collections) calls result) :
    s.Tells request collections sources calls result := by
  cases gives with
  | found => exact tells
  | held serves =>
    obtain ⟨read, left, scanned, hsources, told, hall, ends⟩ := tells
    rw [found_eq serves] at hsources
    obtain ⟨read, left, hsplit, rfl, rfl⟩ := List.map_eq_append_iff.mp hsources
    refine ⟨read, left, scanned, hsplit, ?_, ?_, ?_⟩
    · exact told.of_map fun source column hc => s.cell_shaped request request.source source hc
    · exact fun hok hcalls => List.map_eq_nil_iff.mp (hall hok hcalls)
    · rwa [List.length_map] at ends

/-- The calls that a scan makes. -/
def calls (s : Scanner) (request : ScanRequest) (sink : Sink σ) (state : σ) (ledger : Ledger) :
    List SinkCall :=
  (s.run request sink.recorded (state, []) ledger).2.1.2

/-- The record of its calls does not change a scan. -/
theorem run_recorded (s : Scanner) (request : ScanRequest) (sink : Sink σ) (state : σ)
    (ledger : Ledger) :
    (s.run request sink.recorded (state, []) ledger).map id (Prod.map Prod.fst id) =
      s.run request sink state ledger :=
  run_standsFor sink.recorded_standsFor s request (state, []) ledger

theorem run_of_resolve_error {s : Scanner} {request : ScanRequest} {e : CatalogError}
    (h : s.patterns.resolve s.store request.database request.source = .error e) (sink : Sink σ)
    (state : σ) (ledger : Ledger) :
    s.run request sink state ledger = (.error (.catalog e), state, ledger) := by
  unfold run
  rw [h]

/-- A scan is its loop, on the chain of its collections, and then closing. -/
theorem run_of_collections {s : Scanner} {request : ScanRequest} {collections : List String}
    (h : s.patterns.resolve s.store request.database request.source = .ok collections)
    (sink : Sink σ) (state : σ) (ledger : Ledger) :
    let scan := s.readRows sink request.source request.schema.columns .empty
      (.start (s.rowQuery request) collections ledger) state
    s.run request sink state ledger =
      (scan.1.bind fun summary => (scan.2.1.close.1.mapError .cursor).bind fun _ => .ok summary,
        scan.2.2, scan.2.1.close.2.ledger) := by
  unfold run
  rw [h]
  rfl

/-- A row that goes to its end is one more document. -/
theorem offerRow_documents {sink : Sink σ} {summary total : ScanSummary} {value : Column → Value}
    {columns : List Column} {state state' : σ}
    (h : offerRow sink summary value state columns = (.ok total, state')) :
    total.documents = summary.documents + 1 := by
  unfold offerRow at h
  match hall : offerAll sink summary.rows value state columns with
  | (.error e, _) => simp [hall] at h
  | (.ok accepted, _) =>
    rw [hall] at h
    obtain ⟨htotal, -⟩ := Prod.mk.inj h
    obtain rfl := Except.ok.inj htotal
    rfl

/-- Where a loop comes to a good end, its chain has handed out the documents that are counted. -/
theorem readRows_handedOut {query : String → Except StoreError Rows} {collections : List String}
    {before : Ledger} {s : Scanner} {sink : Sink σ} {table : String} {columns : List Column}
    {summary total : ScanSummary} {chain : Chain} {state : σ} :
    Chain.HandedOut query collections before summary.documents chain →
    (s.readRows sink table columns summary chain state).1 = .ok total →
      Chain.HandedOut query collections before total.documents
        (s.readRows sink table columns summary chain state).2.1 := by
  fun_induction readRows s sink table columns summary chain state with
  | case1 summary chain state state' hl =>
    intro h ok
    obtain rfl := Except.ok.inj ok
    exact h
  | case3 summary chain state state' hl chain' hn =>
    intro h ok
    obtain rfl := Except.ok.inj ok
    exact h.ended hn
  | case2 | case4 | case5 => exact fun _ ok => by cases ok
  | case6 summary chain state state' hl fetched hn captures d hd summary' state'' hr ih =>
    exact fun h ok => ih (offerRow_documents hr ▸ h.take hn) ok

/-- A loop that has come to a good end is followed by closing. -/
theorem ends_of_handedOut {query : String → Except StoreError Rows} {collections : List String}
    {before : Ledger} {n : Nat} {chain : Chain}
    (h : Chain.HandedOut query collections before n chain) (summary : ScanSummary) :
    Ends query collections n (.ok summary)
      ((chain.close.1.mapError .cursor).bind fun _ => .ok summary) := by
  obtain ⟨-, -, -, stands⟩ := h
  cases hclose : chain.close.1 with
  | ok _ =>
    refine .closed fun cause failed => ?_
    rw [← Chain.close_of_stands stands, hclose] at failed
    cases failed
  | error cause => exact .closeFailed ((Chain.close_of_stands stands cause).mp hclose)

theorem tells_of_gives {s : Scanner} {request : ScanRequest} {collections : List String}
    (h : s.patterns.resolve s.store request.database request.source = .ok collections)
    {sources : List Found} (gives : s.Gives request collections sources)
    (sink : Sink σ) (state : σ) (ledger : Ledger) :
    s.Tells request collections sources (s.calls request sink state ledger)
      (s.run request sink state ledger).1 := by
  obtain ⟨read, left, calls, remaining, hfindings, hitems, hlog, told, hall, hcause⟩ :=
    s.readRows_recorded sink request.source request.schema.columns .empty
      (.start (s.rowQuery request) collections ledger) (state, [])
  have hcalls : s.calls request sink state ledger = calls := by
    rw [Scanner.calls, run_of_collections h, hlog, List.nil_append]
  rw [hcalls, ← s.run_recorded, run_of_collections h]
  refine Tells.of_found gives ⟨read, left, _, hfindings, told, fun ok live => (hall ok live).1, ?_⟩
  cases hscan : (s.readRows sink.recorded request.source request.schema.columns .empty
      (.start (s.rowQuery request) collections ledger) (state, [])).1 with
  | error e =>
    obtain ⟨field, reason, rfl⟩ | ⟨cause, rfl⟩ := told.error_cases hscan
    · exact .refused
    · obtain ⟨later, rfl⟩ := hcause cause hscan
      exact .broken hitems (List.length_map _)
  | ok summary =>
    have handed := readRows_handedOut (Chain.handedOut_start ..) hscan
    rw [told.documents_eq summary hscan, ScanSummary.empty, Nat.zero_add] at handed
    exact ends_of_handedOut handed summary

/-- Where a scan comes to a good end without having been stopped, it has told of all documents. -/
theorem Tells.told {s : Scanner} {request : ScanRequest} {collections : List String}
    {sources : List Found} {calls : List SinkCall} {result : Except ScanError ScanSummary}
    (tells : s.Tells request collections sources calls result) (ok : result.toBool = true)
    (live : .polled false ∉ calls) :
    Told (s.cell request.source) request.schema.columns .empty sources calls result := by
  obtain ⟨read, left, scanned, rfl, told, hall, ends⟩ := tells
  cases ends with
  | refused | broken | closeFailed => simp [Except.toBool] at ok
  | closed =>
    rw [hall ok live, List.append_nil]
    exact told

/-- A scan that has begun does not fail for want of its table. -/
theorem run_ne_catalog_error {s : Scanner} {request : ScanRequest} {collections : List String}
    (h : s.patterns.resolve s.store request.database request.source = .ok collections)
    (sink : Sink σ) (state : σ) (ledger : Ledger) (e : CatalogError) :
    (s.run request sink state ledger).1 ≠ .error (.catalog e) := by
  obtain ⟨read, left, scanned, -, -, -, ends⟩ := tells_of_gives h .found sink state ledger
  intro hresult
  rw [hresult] at ends
  cases ends

/-- **What a scan tells its sink.**  Whatever the sink answers, the calls are those of `Told` for
documents from the front of what the collections of the table have to give, and the scan ends as
`Ends` has it for their number; there are none if the table has no collections. -/
theorem run_tells (s : Scanner) (request : ScanRequest) (sink : Sink σ) (state : σ)
    (ledger : Ledger) :
    (s.run request sink.recorded (state, []) ledger).map id (Prod.map Prod.fst id) =
        s.run request sink state ledger ∧
      match s.patterns.resolve s.store request.database request.source with
      | .error e =>
        s.run request sink state ledger = (.error (.catalog e), state, ledger) ∧
          s.calls request sink state ledger = []
      | .ok collections =>
        ∀ sources, s.Gives request collections sources →
          s.Tells request collections sources (s.calls request sink state ledger)
            (s.run request sink state ledger).1 := by
  refine ⟨s.run_recorded request sink state ledger, ?_⟩
  cases h : s.patterns.resolve s.store request.database request.source with
  | error e =>
    refine ⟨run_of_resolve_error h sink state ledger, ?_⟩
    rw [calls, run_of_resolve_error h]
  | ok collections => exact fun sources gives => tells_of_gives h gives sink state ledger

end Scanner

end DocTables
