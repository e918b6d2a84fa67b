/-
# The sink is asked before each document

A scan asks its sink whether to go on, and asks its chain for a document only if the sink says so.
So what a scan does to its chain is known from the answers alone (`readRows_attempts`): as many
attempts to get a document as there were answers to go on, and then closing.  `Scanner.polled_once`
holds of every sink, so no attempt can go before the answer that allows it: a sink that gave another
answer there would find one attempt too many.

The rest is counted over the calls (`Told`): one question more than documents if all goes well, and
nothing after the first answer to stop.
-/
import DocTables.Proofs.Scan.Release

namespace DocTables

variable {σ : Type}

/-! ## 1. Questions among the calls -/

/-- A question whether to go on. -/
def SinkCall.isPoll : SinkCall → Bool
  | .polled _ => true
  | _ => false

/-- How often the sink has been asked whether to go on. -/
def polls (calls : List SinkCall) : Nat := calls.countP SinkCall.isPoll

theorem Offers.polls_eq {row : Nat} {value : Column → Value} {columns : List Column}
    {calls : List SinkCall} {result : Except ScanError Bool}
    (offers : Offers row value columns calls result) : polls calls = 0 := by
  refine List.countP_eq_zero.mpr ?_
  intro call hcall hpoll
  cases call with
  | polled live => exact offers.polled_notMem live hcall
  | offered complex field row v answer => cases hpoll
  | ended row accepted => cases hpoll

section

variable {value : Found → Column → Value} {columns : List Column} {summary : ScanSummary}
  {sources : List Found} {calls : List SinkCall} {result : Except ScanError ScanSummary}

/-- A scan that goes well asks once for every document and once for the end. -/
theorem Told.polls_eq (told : Told value columns summary sources calls result) :
    ∀ total : ScanSummary, result = .ok total →
      polls calls + summary.documents = total.documents + 1 := by
  induction told with
  | stopped summary | finished summary =>
    intro total htotal
    obtain rfl := Except.ok.inj htotal
    exact Nat.add_comm 1 _
  | broken summary cause | failed offers =>
    intro total htotal
    cases htotal
  | row offers _ ih =>
    intro total htotal
    have hlater := ih total htotal
    have hrow := offers.polls_eq
    simp only [ScanSummary.next] at hlater
    simp only [polls, List.cons_append, List.countP_cons, List.countP_append] at hlater hrow ⊢
    simp only [hrow, SinkCall.isPoll, if_true, Bool.false_eq_true, if_false]
    omega

/-- Every document that is read has been allowed. -/
theorem Told.length_le_goAheads (told : Told value columns summary sources calls result) :
    sources.length ≤ goAheads calls := by
  obtain h | ⟨h, -⟩ := told.goAheads_cases <;> omega

/-- The first answer to stop is the last call. -/
theorem Told.stop_last (told : Told value columns summary sources calls result) :
    .polled false ∈ calls → ∃ before, calls = before ++ [.polled false] ∧ .polled false ∉ before := by
  induction told with
  | stopped summary => exact fun _ => ⟨[], rfl, List.not_mem_nil⟩
  | finished summary | broken summary cause =>
    intro h
    simp at h
  | failed offers =>
    intro h
    simp [offers.polled_notMem false] at h
  | @row summary source sources calls later accepted result offers _ ih =>
    intro h
    have hrow := offers.polled_notMem false
    obtain ⟨before, hlater, hbefore⟩ := ih (by simpa [hrow] using h)
    refine ⟨.polled true :: calls ++ .ended summary.rows accepted :: before, ?_, ?_⟩
    · rw [hlater]
      simp
    · simp [hrow, hbefore]

end

/-! ## 2. Attempts to get a document -/

namespace Chain

/-- The documents among the answers of a run. -/
def documentsGiven (answers : List Answer) : List Document :=
  (given answers).filterMap Except.toOption

/-- So many attempts to get a document. -/
def attempt (c : Chain) (n : Nat) : List Answer × Chain :=
  c.run (List.replicate n (.read .iterate))

theorem attempt_succ (c : Chain) (n : Nat) :
    c.attempt (n + 1) =
      (.item c.next?.1 :: (c.next?.2.attempt n).1, (c.next?.2.attempt n).2) := rfl

/-- An attempt that gets a document. -/
theorem attempt_of_hasNext {c fetched : Chain} (h : c.hasNext = (.ok true, fetched)) {d : Document}
    (hd : fetched.take.1 = some d) (n : Nat) :
    (c.attempt (n + 1)).2 = (fetched.take.2.attempt n).2 ∧
      documentsGiven (c.attempt (n + 1)).1 = d :: documentsGiven (fetched.take.2.attempt n).1 := by
  have holds := c.hasNext_settles
  rw [h] at holds
  obtain ⟨d', holds⟩ : ∃ d', fetched.Holds d' := holds
  obtain rfl : d = d' := Option.some.inj (hd.symm.trans (congrArg Prod.fst (take_of_holds holds)))
  have hnext : c.next? = (some (.ok d), fetched.take.2) := by
    rw [next?_of_holds (d := d) (by rw [h]) (by rw [h]; exact holds), h]
  rw [attempt_succ, hnext]
  exact ⟨rfl, rfl⟩

/-- An attempt that gets none. -/
theorem attempt_of_failed {c c' : Chain} {e : CursorError} (h : c.hasNext = (.error e, c')) :
    (c.attempt 1).2 = c' ∧ documentsGiven (c.attempt 1).1 = [] := by
  have hnext : c.next? = (some (.error e), c') := by rw [next?, h]
  rw [attempt_succ, hnext]
  exact ⟨rfl, rfl⟩

theorem attempt_of_finished {c c' : Chain} (h : c.hasNext = (.ok false, c')) :
    (c.attempt 1).2 = c' ∧ documentsGiven (c.attempt 1).1 = [] := by
  have hnext : c.next? = (none, c') := by rw [next?, h]
  rw [attempt_succ, hnext]
  exact ⟨rfl, rfl⟩

/-- Closing only releases the cursor that is open, if one is. -/
theorem history_close (c : Chain) :
    c.close.2.ledger.history =
      c.ledger.history ++ c.collection?.toList.map CursorEvent.closed := by
  rw [close_chain, collection?]
  cases c.current with
  | none => exact (List.append_nil _).symm
  | some on => exact Ledger.history_closing _ _ _

end Chain

namespace Scanner

/-- **The loop of a scan.**  It makes an attempt to get a document for every answer to go on, and
tells its sink of the documents that these attempts have given. -/
theorem readRows_attempts (s : Scanner) (sink : Sink σ) (table : String) (columns : List Column)
    (summary : ScanSummary) (chain : Chain) (state : σ × List SinkCall) :
    ∃ (read : List Found) (calls : List SinkCall),
      (s.readRows sink.recorded table columns summary chain state).2.2.2 = state.2 ++ calls ∧
      Told (s.cell table) columns summary read calls
        (s.readRows sink.recorded table columns summary chain state).1 ∧
      (s.readRows sink.recorded table columns summary chain state).2.1 =
        (chain.attempt (goAheads calls)).2 ∧
      Chain.documentsGiven (chain.attempt (goAheads calls)).1 = read.map Found.document := by
  -- The cases are the ways in which a round can end; only the last goes on.
  fun_induction readRows s sink.recorded table columns summary chain state with
  | case1 summary chain state state' hl =>
    exact ⟨[], [.polled false], Sink.isLive_recorded hl, .stopped summary, rfl, rfl⟩
  | case2 summary chain state state' hl e chain' hn =>
    obtain ⟨hchain, hgiven⟩ := Chain.attempt_of_failed hn
    exact ⟨[], [.polled true], Sink.isLive_recorded hl, .broken summary e, hchain.symm, hgiven⟩
  | case3 summary chain state state' hl chain' hn =>
    obtain ⟨hchain, hgiven⟩ := Chain.attempt_of_finished hn
    exact ⟨[], [.polled true], Sink.isLive_recorded hl, .finished summary, hchain.symm, hgiven⟩
  | case4 summary chain state state' hl fetched hn hd =>
    obtain ⟨source, -, htake, -⟩ := Chain.hasNext_true hn
    exact absurd (hd.symm.trans htake) (by simp)
  | case5 summary chain state state' hl fetched hn captures d hd e state'' hr =>
    obtain ⟨source, hcollection, htake, -⟩ := Chain.hasNext_true hn
    obtain rfl : d = source.document := Option.some.inj (hd.symm.trans htake)
    obtain ⟨calls, hoffers, hlog⟩ := offerRow_recorded_error hr
    have hgo : goAheads (.polled true :: calls) = 0 + 1 := hoffers.goAheads_eq
    obtain ⟨hchain, hgiven⟩ := Chain.attempt_of_hasNext hn htake 0
    refine ⟨[source], .polled true :: calls, ?_, ?_, ?_, ?_⟩
    · rw [hlog, Sink.isLive_recorded hl, List.append_assoc]
      rfl
    · refine .failed ?_
      rw [← s.value_eq_cell table source hcollection]
      exact hoffers
    · rw [hgo, hchain]
      rfl
    · rw [hgo, hgiven]
      rfl
  | case6 summary chain state state' hl fetched hn captures d hd summary' state'' hr ih =>
    obtain ⟨source, hcollection, htake, -⟩ := Chain.hasNext_true hn
    obtain rfl : d = source.document := Option.some.inj (hd.symm.trans htake)
    obtain ⟨calls, accepted, hoffers, rfl, hlog⟩ := offerRow_recorded_ok hr
    obtain ⟨read, later, hlater, htold, hchain, hgiven⟩ := ih
    have hgo := hoffers.goAheads_row accepted later
    obtain ⟨hchain', hgiven'⟩ := Chain.attempt_of_hasNext hn htake (goAheads later)
    refine ⟨source :: read, .polled true :: calls ++ .ended summary.rows accepted :: later,
      ?_, ?_, ?_, ?_⟩
    · rw [hlater, hlog, Sink.isLive_recorded hl]
      simp
    · refine .row ?_ htold
      rw [← s.value_eq_cell table source hcollection]
      exact hoffers
    · rw [hgo, hchain', hchain]
    · rw [hgo, hgiven', hgiven, List.map_cons]

/-! ## 3. Scans -/

/-- What goes well with closing after it has gone well without. -/
theorem ok_of_closed {scanned : Except ScanError ScanSummary} {closed : Except CursorError Unit}
    {summary : ScanSummary}
    (h : (scanned.bind fun total => (closed.mapError ScanError.cursor).bind fun _ => .ok total) =
      .ok summary) : scanned = .ok summary := by
  cases scanned with
  | error e => cases h
  | ok total =>
    cases closed with
    | error e => cases h
    | ok u => exact h

variable {s : Scanner} {request : ScanRequest} {collections : List String}

/-- **The sink is asked once before each attempt to get a document.**  Let `n` be how often it has
answered that the scan should go on.  Whatever it answers:

* `n` attempts to get a document have been made, and then the cursor that was open, if any, has been
  closed; the documents that the sink is told of are those that the attempts have given, so no more
  than `n` have been read;
* if the scan goes well, there is one question more than documents;
* the first answer to stop is the last call of all, and nothing is opened or read after it: it is
  not counted in `n`;
* if this is the first answer, nothing has been read and no cursor opened. -/
theorem polled_once
    (resolved : s.patterns.resolve s.store request.database request.source = .ok collections)
    (sink : Sink σ) (state : σ) (ledger : Ledger) :
    let calls := s.calls request sink state ledger
    let scan := s.run request sink state ledger
    let attempts := (Chain.start (s.rowQuery request) collections ledger).attempt (goAheads calls)
    (∃ (read : List Found) (scanned : Except ScanError ScanSummary),
        Told (s.cell request.source) request.schema.columns .empty read calls scanned ∧
        Chain.documentsGiven attempts.1 = read.map Found.document ∧
        read.length ≤ goAheads calls) ∧
      scan.2.2.history =
        attempts.2.ledger.history ++ attempts.2.collection?.toList.map CursorEvent.closed ∧
      (∀ summary, scan.1 = .ok summary → polls calls = summary.documents + 1) ∧
      (.polled false ∈ calls →
        ∃ before, calls = before ++ [.polled false] ∧ .polled false ∉ before ∧
          goAheads before = goAheads calls) ∧
      ((sink.isLive state).1 = false →
        calls = [.polled false] ∧ scan.1 = .ok ⟨0, 0⟩ ∧ scan.2.2 = ledger) := by
  intro calls scan attempts
  obtain ⟨read, calls', hlog, told, hchain, hgiven⟩ :=
    s.readRows_attempts sink request.source request.schema.columns .empty
      (.start (s.rowQuery request) collections ledger) (state, [])
  have hcalls : calls = calls' := by
    change (s.run request sink.recorded (state, []) ledger).2.1.2 = calls'
    rw [run_of_collections resolved]
    exact hlog
  obtain rfl := hcalls
  have hrun := run_of_collections resolved sink.recorded (state, []) ledger
  have hscan : (s.run request sink.recorded (state, []) ledger).map id (Prod.map Prod.fst id) = scan :=
    s.run_recorded request sink state ledger
  have hledger : scan.2.2 = attempts.2.close.2.ledger := by
    rw [← hscan, hrun]
    simp only [Prod.map, hchain]
    rfl
  refine ⟨⟨read, _, told, hgiven, told.length_le_goAheads⟩, ?_, ?_, ?_, ?_⟩
  · rw [hledger]
    exact Chain.history_close _
  · intro summary hok
    -- A scan that goes well answers what its loop has counted.
    refine told.polls_eq summary ?_
    rw [← hscan, hrun] at hok
    exact ok_of_closed hok
  · intro hstop
    obtain ⟨before, hbefore, hnot⟩ := told.stop_last hstop
    refine ⟨before, hbefore, hnot, ?_⟩
    rw [hbefore, goAheads_append]
    rfl
  · intro hdead
    have hloop : s.readRows sink.recorded request.source request.schema.columns .empty
        (.start (s.rowQuery request) collections ledger) (state, []) =
          (.ok .empty, .start (s.rowQuery request) collections ledger,
            (sink.isLive state).2, [.polled false]) := by
      have hlive : sink.recorded.isLive (state, []) =
          (false, (sink.isLive state).2, [.polled false]) := by
        rw [← hdead]
        rfl
      rw [readRows_eq, hlive]
    rw [hloop] at hlog hrun
    refine ⟨hlog.symm, ?_, ?_⟩
    · rw [← hscan, hrun]
      rfl
    · rw [← hscan, hrun]
      rfl

/-- A store with a collection of two documents. -/
def twoRows : MemoryStore :=
  MemoryStore.empty.insertMany "db" "a" [⟨[("v", .int32 1)]⟩, ⟨[("v", .int32 2)]⟩]

/-- A sink that counts rows and wants one. -/
def oneRow : Sink Nat where
  offer count _ _ _ := (.ok true, count)
  offerComplex count _ _ _ := (.ok true, count)
  endRow count _ _ := count + 1
  isLive count := (decide (count < 1), count)

/-- Such a sink is asked twice; the second document is not read, and the cursor is closed. -/
theorem polled_once_twoRows :
    let s : Scanner := ⟨twoRows.toStore, ⟨[]⟩, true⟩
    let request : ScanRequest := ⟨"db", "a", .ofColumns [.ofKind "v" .int32], .empty⟩
    let scan := s.run request oneRow 0 .empty
    s.patterns.resolve s.store request.database request.source = .ok ["a"] ∧
      scan.1 = .ok ⟨1, 1⟩ ∧ polls (s.calls request oneRow 0 .empty) = 2 ∧
      scan.2.2.history = [.opened "a", .read "a", .closed "a"] := by
  intro s request scan
  have resolved : s.patterns.resolve s.store request.database request.source = .ok ["a"] := by cbv
  have hgo : goAheads (s.calls request oneRow 0 .empty) = 1 := by cbv
  have hscan : (s.run request oneRow 0 .empty).1 = .ok ⟨1, 1⟩ := by cbv
  obtain ⟨-, hhistory, hpolls, -, -⟩ := polled_once resolved oneRow 0 .empty
  rw [hgo] at hhistory
  exact ⟨resolved, hscan, hpolls _ hscan, hhistory⟩

end Scanner

end DocTables
