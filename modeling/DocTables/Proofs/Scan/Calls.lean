/-
# What a scan tells its sink

The calls that a scan makes on a sink are written down by a sink that stands in front of it
(`Sink.recorded`); the scan goes on as it would without (`run_standsFor`).

`Told` says what the calls have to be, given the documents that are read and the answers of the
sink, whatever these depend on:

* before each document the sink is asked whether to go on;
* the columns are offered in order, up to the first that is not accepted (`Offers`), each with the
  value that stands for it (`Scanner.cell`);
* then the row ends, unless the sink has failed, which ends the scan.

The loop of a scan tells its sink so of documents from the front of what its chain has still to give
(`readRows_recorded`).
-/
import DocTables.Proofs.Chain.Findings
import DocTables.Scan

namespace DocTables

variable {σ τ : Type}

/-! ## 1. Sinks in front of others -/

namespace Sink

/-- One sink answers as another, whose state can be told from its own. -/
structure StandsFor (view : τ → σ) (front : Sink τ) (back : Sink σ) : Prop where
  offer : ∀ state field row v,
    (front.offer state field row v).map id view = back.offer (view state) field row v
  offerComplex : ∀ state field row v,
    (front.offerComplex state field row v).map id view = back.offerComplex (view state) field row v
  endRow : ∀ state row accepted,
    view (front.endRow state row accepted) = back.endRow (view state) row accepted
  isLive : ∀ state, (front.isLive state).map id view = back.isLive (view state)

/-- No call takes the state of a sink out of a set. -/
structure Keeps (sink : Sink σ) (inv : σ → Prop) : Prop where
  offer : ∀ state field row v, inv state → inv (sink.offer state field row v).2
  offerComplex : ∀ state field row v, inv state → inv (sink.offerComplex state field row v).2
  endRow : ∀ state row accepted, inv state → inv (sink.endRow state row accepted)
  isLive : ∀ state, inv state → inv (sink.isLive state).2

/-- A sink on the states that it does not leave. -/
def restrict (sink : Sink σ) {inv : σ → Prop} (keeps : sink.Keeps inv) : Sink { s // inv s } where
  offer state field row v :=
    ((sink.offer state field row v).1, ⟨_, keeps.offer state field row v state.2⟩)
  offerComplex state field row v :=
    ((sink.offerComplex state field row v).1, ⟨_, keeps.offerComplex state field row v state.2⟩)
  endRow state row accepted := ⟨_, keeps.endRow state row accepted state.2⟩
  isLive state := ((sink.isLive state).1, ⟨_, keeps.isLive state state.2⟩)

theorem restrict_standsFor (sink : Sink σ) {inv : σ → Prop} (keeps : sink.Keeps inv) :
    (sink.restrict keeps).StandsFor Subtype.val sink :=
  ⟨fun _ _ _ _ => rfl, fun _ _ _ _ => rfl, fun _ _ _ => rfl, fun _ => rfl⟩

end Sink

namespace Scanner

variable {view : τ → σ} {front : Sink τ} {back : Sink σ}

theorem offer_standsFor (h : front.StandsFor view back) (state : τ) (row : Nat) (column : Column)
    (v : Value) :
    (offer front state row column v).map id view = offer back (view state) row column v := by
  unfold offer
  by_cases hc : column.kind.isComplex = true
  · rw [if_pos hc, if_pos hc, ← h.offerComplex]
    rfl
  · rw [if_neg hc, if_neg hc, ← h.offer]
    rfl

theorem offerAll_standsFor (h : front.StandsFor view back) (row : Nat) (value : Column → Value) :
    ∀ (columns : List Column) (state : τ),
      (offerAll front row value state columns).map id view =
        offerAll back row value (view state) columns
  | [], state => rfl
  | column :: rest, state => by
    have hstep := offer_standsFor h state row column (value column)
    rw [offerAll, offerAll, ← hstep]
    match offer front state row column (value column) with
    | (.error e, state) => rfl
    | (.ok false, state) => rfl
    | (.ok true, state) => exact offerAll_standsFor h row value rest state

theorem offerRow_standsFor (h : front.StandsFor view back) (summary : ScanSummary)
    (value : Column → Value) (columns : List Column) (state : τ) :
    (offerRow front summary value state columns).map id view =
      offerRow back summary value (view state) columns := by
  rw [offerRow, offerRow, ← offerAll_standsFor h]
  match offerAll front summary.rows value state columns with
  | (.error e, state) => rfl
  | (.ok accepted, state) => exact congrArg (Prod.mk _) (h.endRow state summary.rows accepted)

/-- One round of a scan. -/
theorem readRows_eq (s : Scanner) (sink : Sink σ) (table : String) (columns : List Column)
    (summary : ScanSummary) (chain : Chain) (state : σ) :
    s.readRows sink table columns summary chain state =
      match sink.isLive state, chain.hasNext with
      | (false, state), _ => (.ok summary, chain, state)
      | (true, state), (.error e, chain) => (.error (.cursor e), chain, state)
      | (true, state), (.ok false, chain) => (.ok summary, chain, state)
      | (true, state), (.ok true, fetched) =>
        match fetched.take.1 with
        | none => (.error (.cursor .exhausted), fetched.take.2, state)
        | some d =>
          match offerRow sink summary (s.value (s.captures table fetched.collection?) d) state
            columns with
          | (.error e, state) => (.error e, fetched.take.2, state)
          | (.ok summary, state) => s.readRows sink table columns summary fetched.take.2 state := by
  rw [readRows]
  match sink.isLive state with
  | (false, state) => rfl
  | (true, state) =>
    simp only
    split <;> rename_i h <;> exact h ▸ rfl

theorem readRows_standsFor (h : front.StandsFor view back) (s : Scanner) (table : String)
    (columns : List Column) (summary : ScanSummary) (chain : Chain) (state : τ) :
    (s.readRows front table columns summary chain state).map id (Prod.map id view) =
      s.readRows back table columns summary chain (view state) := by
  have hlive {state state' : τ} {live : Bool} (hl : front.isLive state = (live, state')) :
      back.isLive (view state) = (live, view state') := by
    rw [← h.isLive, hl]
    rfl
  have hrow {summary : ScanSummary} {value : Column → Value} {state state' : τ}
      {result : Except ScanError ScanSummary}
      (hr : offerRow front summary value state columns = (result, state')) :
      offerRow back summary value (view state) columns = (result, view state') := by
    rw [← offerRow_standsFor h, hr]
    rfl
  fun_induction readRows s front table columns summary chain state with
  | case1 summary chain state state' hl => rw [readRows_eq, hlive hl]; rfl
  | case2 summary chain state state' hl e chain' hn => rw [readRows_eq, hlive hl, hn]; rfl
  | case3 summary chain state state' hl chain' hn => rw [readRows_eq, hlive hl, hn]; rfl
  | case4 summary chain state state' hl fetched hn hd =>
    rw [readRows_eq, hlive hl, hn]
    simp only [hd]
    rfl
  | case5 summary chain state state' hl fetched hn captures d hd e state'' hr =>
    rw [readRows_eq, hlive hl, hn]
    simp only [hd, captures, hrow hr]
    rfl
  | case6 summary chain state state' hl fetched hn captures d hd summary' state'' hr ih =>
    rw [readRows_eq s back, hlive hl, hn]
    simp only [hd, captures, hrow hr]
    exact ih

/-- A scan into a sink in front of another is a scan into that one. -/
theorem run_standsFor (h : front.StandsFor view back) (s : Scanner) (request : ScanRequest)
    (state : τ) (ledger : Ledger) :
    (s.run request front state ledger).map id (Prod.map view id) =
      s.run request back (view state) ledger := by
  unfold run
  match s.patterns.resolve s.store request.database request.source with
  | .error e => rfl
  | .ok collections =>
    simp only
    rw [← readRows_standsFor h]
    rfl

/-- What no call changes, no scan changes. -/
theorem run_keeps {sink : Sink σ} {inv : σ → Prop} (keeps : sink.Keeps inv) (s : Scanner)
    (request : ScanRequest) {state : σ} (h : inv state) (ledger : Ledger) :
    inv (s.run request sink state ledger).2.1 := by
  rw [← run_standsFor (sink.restrict_standsFor keeps) s request ⟨state, h⟩ ledger]
  exact (s.run request (sink.restrict keeps) ⟨state, h⟩ ledger).2.1.2

end Scanner

/-! ## 2. Calls and their record -/

/-- What is asked of a sink, or told to it, with its answer. -/
inductive SinkCall where
  /-- Whether the scan should go on. -/
  | polled (live : Bool)
  /-- A value for a field of a row; `complex` tells the two calls for values apart. -/
  | offered (complex : Bool) (field : String) (row : Nat) (value : Value)
      (answer : Except String Bool)
  | ended (row : Nat) (accepted : Bool)

/-- A sink that writes down every call and passes it on. -/
def Sink.recorded (sink : Sink σ) : Sink (σ × List SinkCall) where
  offer state field row value :=
    let (answer, next) := sink.offer state.1 field row value
    (answer, next, state.2 ++ [.offered false field row value answer])
  offerComplex state field row value :=
    let (answer, next) := sink.offerComplex state.1 field row value
    (answer, next, state.2 ++ [.offered true field row value answer])
  endRow state row accepted :=
    (sink.endRow state.1 row accepted, state.2 ++ [.ended row accepted])
  isLive state :=
    let (live, next) := sink.isLive state.1
    (live, next, state.2 ++ [.polled live])

theorem Sink.recorded_standsFor (sink : Sink σ) : sink.recorded.StandsFor Prod.fst sink :=
  ⟨fun _ _ _ _ => rfl, fun _ _ _ _ => rfl, fun _ _ _ => rfl, fun _ => rfl⟩

/-- What the record has of the question whether to go on. -/
theorem Sink.isLive_recorded {sink : Sink σ} {state state' : σ × List SinkCall} {live : Bool}
    (h : sink.recorded.isLive state = (live, state')) : state'.2 = state.2 ++ [.polled live] := by
  obtain ⟨hlive, rfl⟩ := Prod.mk.inj h
  rw [← hlive]

/-- A column of a row, offered and answered. -/
def offerOf (row : Nat) (value : Column → Value) (answer : Except String Bool)
    (column : Column) : SinkCall :=
  .offered column.kind.isComplex column.name row (value column) answer

/-- The offers of a row: the columns in order, up to the first that is not accepted. -/
inductive Offers (row : Nat) (value : Column → Value) (columns : List Column) :
    List SinkCall → Except ScanError Bool → Prop
  | accepted : Offers row value columns (columns.map (offerOf row value (.ok true))) (.ok true)
  | refused {before after : List Column} {column : Column}
      (split : columns = before ++ column :: after) :
      Offers row value columns
        (before.map (offerOf row value (.ok true)) ++ [offerOf row value (.ok false) column])
        (.ok false)
  | failed {before after : List Column} {column : Column} {reason : String}
      (split : columns = before ++ column :: after) :
      Offers row value columns
        (before.map (offerOf row value (.ok true)) ++ [offerOf row value (.error reason) column])
        (.error (.field column.name reason))

/-- The counts after one more document. -/
def ScanSummary.next (summary : ScanSummary) (accepted : Bool) : ScanSummary :=
  ⟨summary.documents + 1, if accepted then summary.rows + 1 else summary.rows⟩

/-- The calls of a scan that has come to some counts and goes on to read documents, and what comes
of it.  The row of a document is numbered by the rows accepted before. -/
inductive Told (value : Found → Column → Value) (columns : List Column) :
    ScanSummary → List Found → List SinkCall → Except ScanError ScanSummary → Prop
  /-- The sink has asked for an end. -/
  | stopped (summary : ScanSummary) : Told value columns summary [] [.polled false] (.ok summary)
  /-- There are no more documents. -/
  | finished (summary : ScanSummary) : Told value columns summary [] [.polled true] (.ok summary)
  /-- The next document cannot be read. -/
  | broken (summary : ScanSummary) (cause : CursorError) :
      Told value columns summary [] [.polled true] (.error (.cursor cause))
  /-- The sink has failed. -/
  | failed {summary : ScanSummary} {source : Found} {calls : List SinkCall} {e : ScanError}
      (offers : Offers summary.rows (value source) columns calls (.error e)) :
      Told value columns summary [source] (.polled true :: calls) (.error e)
  | row {summary : ScanSummary} {source : Found} {sources : List Found}
      {calls later : List SinkCall} {accepted : Bool} {result : Except ScanError ScanSummary}
      (offers : Offers summary.rows (value source) columns calls (.ok accepted))
      (others : Told value columns (summary.next accepted) sources later result) :
      Told value columns summary (source :: sources)
        (.polled true :: calls ++ .ended summary.rows accepted :: later) result

namespace Scanner

/-! ## 3. The calls of a scan -/

theorem offer_recorded (sink : Sink σ) (state : σ) (log : List SinkCall) (row : Nat)
    (column : Column) (v : Value) :
    ∃ (answer : Except String Bool) (next : σ),
      offer sink.recorded (state, log) row column v =
        (answer.mapError (.field column.name), next,
          log ++ [.offered column.kind.isComplex column.name row v answer]) := by
  unfold offer
  by_cases hc : column.kind.isComplex = true
  · rw [if_pos hc, hc]
    exact ⟨_, _, rfl⟩
  · rw [if_neg hc, Bool.eq_false_iff.mpr hc]
    exact ⟨_, _, rfl⟩

theorem offerAll_recorded (sink : Sink σ) (row : Nat) (value : Column → Value) :
    ∀ (columns : List Column) (state : σ) (log : List SinkCall),
      ∃ (calls : List SinkCall) (result : Except ScanError Bool) (next : σ),
        offerAll sink.recorded row value (state, log) columns = (result, next, log ++ calls) ∧
          Offers row value columns calls result
  | [], state, log => ⟨[], .ok true, state, by simp [offerAll], .accepted⟩
  | column :: rest, state, log => by
    obtain ⟨answer, next, hoffer⟩ := offer_recorded sink state log row column (value column)
    rw [offerAll, hoffer]
    match answer with
    | .error reason =>
      exact ⟨[offerOf row value (.error reason) column], _, next, rfl,
        .failed (List.nil_append (column :: rest)).symm⟩
    | .ok false =>
      exact ⟨[offerOf row value (.ok false) column], _, next, rfl,
        .refused (List.nil_append (column :: rest)).symm⟩
    | .ok true =>
      obtain ⟨calls, result, last, hrest, hoffers⟩ :=
        offerAll_recorded sink row value rest next (log ++ [offerOf row value (.ok true) column])
      refine ⟨offerOf row value (.ok true) column :: calls, result, last, ?_, ?_⟩
      · have hlog : log ++ offerOf row value (.ok true) column :: calls =
            log ++ [offerOf row value (.ok true) column] ++ calls := by simp
        rw [hlog]
        exact hrest
      · cases hoffers with
        | accepted => exact .accepted
        | @refused before after _ split =>
          exact @Offers.refused row value _ (column :: before) after _ (by rw [split]; rfl)
        | @failed before after _ _ split =>
          exact @Offers.failed row value _ (column :: before) after _ _ (by rw [split]; rfl)

/-- What the sink is told of a row that goes to its end. -/
theorem offerRow_recorded_ok {sink : Sink σ} {summary total : ScanSummary}
    {value : Column → Value} {columns : List Column} {state next : σ × List SinkCall}
    (h : offerRow sink.recorded summary value state columns = (.ok total, next)) :
    ∃ (calls : List SinkCall) (accepted : Bool),
      Offers summary.rows value columns calls (.ok accepted) ∧ total = summary.next accepted ∧
        next.2 = state.2 ++ (calls ++ [.ended summary.rows accepted]) := by
  obtain ⟨calls, result, last, hall, hoffers⟩ :=
    offerAll_recorded sink summary.rows value columns state.1 state.2
  rw [offerRow, hall] at h
  match result with
  | .error e => simp at h
  | .ok accepted =>
    obtain ⟨htotal, rfl⟩ := Prod.mk.inj h
    exact ⟨calls, accepted, hoffers, (Except.ok.inj htotal).symm, by simp [Sink.recorded]⟩

/-- What it is told of a row on which it fails. -/
theorem offerRow_recorded_error {sink : Sink σ} {summary : ScanSummary} {e : ScanError}
    {value : Column → Value} {columns : List Column} {state next : σ × List SinkCall}
    (h : offerRow sink.recorded summary value state columns = (.error e, next)) :
    ∃ calls : List SinkCall, Offers summary.rows value columns calls (.error e) ∧
      next.2 = state.2 ++ calls := by
  obtain ⟨calls, result, last, hall, hoffers⟩ :=
    offerAll_recorded sink summary.rows value columns state.1 state.2
  rw [offerRow, hall] at h
  match result with
  | .ok accepted => simp at h
  | .error e' =>
    obtain ⟨he, rfl⟩ := Prod.mk.inj h
    obtain rfl : e' = e := Except.error.inj he
    exact ⟨calls, hoffers, rfl⟩

/-- What stands for a column in the row of a document: the text that a placeholder of the table has
captured for it, or else the field of its name, or else the first field of its name up to ASCII case
if names are compared so, or else null. -/
def standing (s : Scanner) (table : String) (source : Found) (column : String) : Value :=
  let captured :=
    if s.patterns.isMultiTenant table then
      s.captured? (s.patterns.captures source.collection) column
    else none
  match captured, source.document.get? column with
  | some text, _ => .string text
  | none, some v => v
  | none, none =>
    match source.document.entries.find? fun e => s.ignoreCase && Text.eqIgnoreCase e.1 column with
    | some e => e.2
    | none => .null

/-- The value of a column in the row of a document. -/
def cell (s : Scanner) (table : String) (source : Found) (column : Column) : Value :=
  coerce column.kind (s.standing table source column.name)

theorem captured?_captures (s : Scanner) (table collection column : String) :
    s.captured? (s.captures table (some collection)) column =
      if s.patterns.isMultiTenant table then s.captured? (s.patterns.captures collection) column
      else none := by
  unfold captures captured?
  by_cases h : s.patterns.isMultiTenant table = true
  · simp [h]
  · cases s.ignoreCase <;> simp [h, Dictionary.empty, Dictionary.get?]

theorem value_eq_cell (s : Scanner) (table : String) (source : Found) {collection : Option String}
    (h : collection = some source.collection) :
    s.value (s.captures table collection) source.document = s.cell table source := by
  funext column
  unfold value cell standing
  rw [h, captured?_captures]
  generalize (if s.patterns.isMultiTenant table then _ else none : Option String) = captured
  cases captured with
  | some text => rfl
  | none =>
    cases hfield : source.document.get? column.name with
    | some v => cases hcase : s.ignoreCase <;> simp [field?, Fields.getIgnoreCase?, hcase, hfield]
    | none =>
      cases hcase : s.ignoreCase with
      | false =>
        rw [List.find?_eq_none.mpr (by simp)]
        simp [field?, hcase, hfield]
      | true =>
        simp only [field?, Fields.getIgnoreCase?, hcase, hfield, if_true, Bool.true_and]
        cases source.document.entries.find? fun e => Text.eqIgnoreCase e.1 column.name <;> rfl

/-- **The loop of a scan.**  It tells its sink of documents from the front of what is still to come
of its chain; if it comes to a good end without having been stopped, of all of them.  An error of a
cursor is the one that comes after them. -/
theorem readRows_recorded (s : Scanner) (sink : Sink σ) (table : String) (columns : List Column)
    (summary : ScanSummary) (chain : Chain) (state : σ × List SinkCall) :
    ∃ (read left : List Found) (calls : List SinkCall) (remaining : List Chain.Item),
      chain.findings = read ++ left ∧
      chain.rest = (read.map Found.document).map .ok ++ remaining ∧
      (s.readRows sink.recorded table columns summary chain state).2.2.2 = state.2 ++ calls ∧
      Told (s.cell table) columns summary read calls
        (s.readRows sink.recorded table columns summary chain state).1 ∧
      ((s.readRows sink.recorded table columns summary chain state).1.toBool = true →
        .polled false ∉ calls → left = [] ∧ remaining = []) ∧
      ∀ cause, (s.readRows sink.recorded table columns summary chain state).1 =
        .error (.cursor cause) → ∃ later, remaining = .error cause :: later := by
  -- The cases are the ways in which a round can end; only the last goes on.
  fun_induction readRows s sink.recorded table columns summary chain state with
  | case1 summary chain state state' hl =>
    exact ⟨[], chain.findings, [.polled false], chain.rest, rfl, rfl, Sink.isLive_recorded hl, .stopped summary,
      by simp, nofun⟩
  | case2 summary chain state state' hl e chain' hn =>
    refine ⟨[], chain.findings, [.polled true], chain.rest, rfl, rfl, Sink.isLive_recorded hl,
      .broken summary e, by simp [Except.toBool], fun cause hcause => ?_⟩
    obtain rfl : e = cause := by simpa using hcause
    exact ⟨chain'.rest, Chain.rest_of_hasNext hn⟩
  | case3 summary chain state state' hl chain' hn =>
    have hrest : chain.rest = [] := by
      have hended := chain.hasNext_settles
      rw [hn] at hended
      exact (Chain.rest_of_hasNext hn).trans (Chain.rest_of_exhausted hended)
    exact ⟨[], chain.findings, [.polled true], chain.rest, rfl, rfl, Sink.isLive_recorded hl, .finished summary,
      fun _ _ => ⟨Chain.hasNext_false hn, hrest⟩, nofun⟩
  | case4 summary chain state state' hl fetched hn hd =>
    obtain ⟨source, -, htake, -⟩ := Chain.hasNext_true hn
    exact absurd (hd.symm.trans htake) (by simp)
  | case5 summary chain state state' hl fetched hn captures d hd e state'' hr =>
    obtain ⟨source, hcollection, htake, hfindings, hrest⟩ := Chain.hasNext_true hn
    obtain rfl : d = source.document := Option.some.inj (hd.symm.trans htake)
    obtain ⟨calls, hoffers, hlog⟩ := offerRow_recorded_error hr
    refine ⟨[source], fetched.take.2.findings, .polled true :: calls, fetched.take.2.rest,
      hfindings, hrest, ?_, ?_, ?_, ?_⟩
    · rw [hlog, Sink.isLive_recorded hl, List.append_assoc]
      rfl
    · refine .failed ?_
      rw [← s.value_eq_cell table source hcollection]
      exact hoffers
    · simp [Except.toBool]
    · rintro cause hcause
      cases hoffers
      cases hcause
  | case6 summary chain state state' hl fetched hn captures d hd summary' state'' hr ih =>
    obtain ⟨source, hcollection, htake, hfindings, hrest⟩ := Chain.hasNext_true hn
    obtain rfl : d = source.document := Option.some.inj (hd.symm.trans htake)
    obtain ⟨calls, accepted, hoffers, rfl, hlog⟩ := offerRow_recorded_ok hr
    obtain ⟨read, left, later, remaining, hothers, hitems, hlater, htold, hall, hcause⟩ := ih
    refine ⟨source :: read, left, .polled true :: calls ++ .ended summary.rows accepted :: later,
      remaining, ?_, ?_, ?_, ?_, ?_, hcause⟩
    · rw [hfindings, hothers, List.cons_append]
    · rw [hrest, hitems]
      rfl
    · rw [hlater, hlog, Sink.isLive_recorded hl]
      simp
    · refine .row ?_ htold
      rw [← s.value_eq_cell table source hcollection]
      exact hoffers
    · exact fun hok hcalls => hall hok fun h => hcalls (by simp [h])

end Scanner

end DocTables
