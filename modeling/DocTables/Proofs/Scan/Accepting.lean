/-
# Sinks that accept everything

A sink that accepts whatever it is offered and lets the scan go on (`Sink.Accepting`) is told of all
documents, each with a row of all columns, unless a cursor fails (`Scanner.calls_of_accepting`).
-/
import DocTables.Proofs.Scan.Account

namespace DocTables

variable {σ : Type}

/-! ## 1. Calls that are granted -/

/-- Every value is accepted and no end is asked for. -/
structure Sink.Accepting (sink : Sink σ) : Prop where
  offer : ∀ state field row v, (sink.offer state field row v).1 = .ok true
  offerComplex : ∀ state field row v, (sink.offerComplex state field row v).1 = .ok true
  isLive : ∀ state, (sink.isLive state).1 = true

/-- A sink that accepts everything and keeps nothing. -/
def Sink.granting : Sink Unit where
  offer state _ _ _ := (.ok true, state)
  offerComplex state _ _ _ := (.ok true, state)
  endRow state _ _ := state
  isLive state := (true, state)

theorem Sink.granting_accepting : granting.Accepting :=
  ⟨fun _ _ _ _ => rfl, fun _ _ _ _ => rfl, fun _ => rfl⟩

/-- A call that is answered with yes, as far as it is answered. -/
def SinkCall.Granted : SinkCall → Prop
  | .polled live => live = true
  | .offered _ _ _ _ answer => answer = .ok true
  | .ended _ _ => True

theorem Scanner.granted_of_accepting {sink : Sink σ} (h : sink.Accepting) (s : Scanner)
    (request : ScanRequest) (state : σ) (ledger : Ledger) :
    ∀ call ∈ s.calls request sink state ledger, call.Granted := by
  have keeps : sink.recorded.Keeps fun state => ∀ call ∈ state.2, call.Granted := by
    refine ⟨fun state field row v hs => ?_, fun state field row v hs => ?_,
      fun state row accepted hs => ?_, fun state hs => ?_⟩
    · exact List.forall_mem_append.mpr ⟨hs, by simp [SinkCall.Granted, h.offer]⟩
    · exact List.forall_mem_append.mpr ⟨hs, by simp [SinkCall.Granted, h.offerComplex]⟩
    · exact List.forall_mem_append.mpr ⟨hs, by simp [SinkCall.Granted]⟩
    · exact List.forall_mem_append.mpr ⟨hs, by simp [SinkCall.Granted, h.isLive]⟩
  exact run_keeps keeps s request (by simp) ledger

/-! ## 2. Rows that are accepted -/

/-- The calls of a scan that goes on to read documents and has all their rows accepted. -/
def rowsFrom (value : Found → Column → Value) (columns : List Column) :
    Nat → List Found → List SinkCall
  | _, [] => [.polled true]
  | row, source :: rest =>
    .polled true :: columns.map (offerOf row (value source) (.ok true)) ++
      .ended row true :: rowsFrom value columns (row + 1) rest

theorem Offers.of_granted {row : Nat} {value : Column → Value} {columns : List Column}
    {calls : List SinkCall} {result : Except ScanError Bool}
    (offers : Offers row value columns calls result) (h : ∀ call ∈ calls, call.Granted) :
    calls = columns.map (offerOf row value (.ok true)) ∧ result = .ok true := by
  cases offers with
  | accepted => exact ⟨rfl, rfl⟩
  | @refused before after column split =>
    have hno := h (offerOf row value (.ok false) column) (by simp)
    simp [offerOf, SinkCall.Granted] at hno
  | @failed before after column reason split =>
    have hno := h (offerOf row value (.error reason) column) (by simp)
    simp [offerOf, SinkCall.Granted] at hno

/-- Where every call is granted, only a cursor can break off. -/
theorem Told.of_granted {value : Found → Column → Value} {columns : List Column}
    {summary : ScanSummary} {sources : List Found} {calls : List SinkCall}
    {result : Except ScanError ScanSummary}
    (told : Told value columns summary sources calls result) (h : ∀ call ∈ calls, call.Granted) :
    (∃ cause : CursorError, result = .error (.cursor cause)) ∨
      result = .ok ⟨summary.documents + sources.length, summary.rows + sources.length⟩ ∧
        calls = rowsFrom value columns summary.rows sources := by
  induction told with
  | stopped summary =>
    have hno := h (.polled false) (by simp)
    simp [SinkCall.Granted] at hno
  | finished summary => exact .inr ⟨rfl, rfl⟩
  | broken summary cause => exact .inl ⟨cause, rfl⟩
  | failed offers =>
    have hcalls := (offers.of_granted fun call hc => h call (by simp [hc])).2
    exact absurd hcalls (by simp)
  | @row summary source sources calls later accepted result offers _ ih =>
    obtain ⟨hcalls, haccepted⟩ := offers.of_granted fun call hc => h call (by simp [hc])
    obtain rfl : accepted = true := Except.ok.inj haccepted
    refine (ih fun call hc => h call (by simp [hc])).imp_right fun ⟨hresult, hlater⟩ => ⟨?_, ?_⟩
    · rw [hresult]
      simp only [ScanSummary.next, if_true, List.length_cons]
      congr 2 <;> omega
    · rw [hlater, hcalls]
      rfl

namespace Scanner

/-- A scan whose sink accepts everything, if no cursor fails. -/
theorem calls_of_accepting {s : Scanner} {request : ScanRequest} {collections : List String}
    (h : s.patterns.resolve s.store request.database request.source = .ok collections)
    {sources : List Found} (gives : s.Gives request collections sources) {sink : Sink σ}
    (accepting : sink.Accepting) {state : σ} {ledger : Ledger}
    (read : ∀ cause : CursorError,
      (s.run request sink state ledger).1 ≠ .error (.cursor cause)) :
    (s.run request sink state ledger).1 = .ok ⟨sources.length, sources.length⟩ ∧
      s.calls request sink state ledger =
        rowsFrom (s.cell request.source) request.schema.columns 0 sources := by
  have granted := granted_of_accepting accepting s request state ledger
  obtain ⟨front, left, scanned, hsources, told, hall, ends⟩ :=
    tells_of_gives h gives sink state ledger
  generalize (s.run request sink state ledger).1 = result at ends read ⊢
  obtain ⟨cause, rfl⟩ | ⟨rfl, hcalls⟩ := told.of_granted granted
  · cases ends
    exact absurd rfl (read cause)
  · have hlive : .polled false ∉ s.calls request sink state ledger :=
      fun hmem => by simpa [SinkCall.Granted] using granted _ hmem
    obtain rfl : left = [] := hall rfl hlive
    rw [List.append_nil] at hsources
    cases ends with
    | closed =>
      rw [hcalls, hsources]
      simp [ScanSummary.empty]
    | @closeFailed _ cause => exact absurd rfl (read cause)

end Scanner

end DocTables
