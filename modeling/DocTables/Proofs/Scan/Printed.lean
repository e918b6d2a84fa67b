/-
# Scans that print

A scan into a line printer prints a line for every document that it reads, for as long as the
printer is open: until it has come to its limit or its output has refused a line.  The printer is
asked before each document, so the scan stops before it reads a document beyond that.

`readRows_beside` runs the scan beside the one that prints everything: they go on alike until the
printer is not open any more, where the one stops and the other only adds lines.  So what is printed
are the lines of the other, printed one after another (`printAll`), and the two come to the same end
if the printer is still open then (`run_beside`).

What `printAll` comes to does not depend on a scan.  An output that takes all lines up to the limit
has them in the end (`printAll_of_takes`), and one that refuses a line has those before it
(`printAll_of_refused`).
-/
import DocTables.CommandLine.LinePrinter
import DocTables.Proofs.Fields
import DocTables.Proofs.Scan.Release

namespace DocTables

/-! ## 1. Lines -/

namespace LineOutput

/-- The output takes lines one after another, behind those that have been written. -/
def Takes (o : LineOutput) (written : List String) : List String → Prop
  | [] => True
  | line :: rest => o.write written line = .ok () ∧ o.Takes (line :: written) rest

theorem takes_sound (written lines : List String) : sound.Takes written lines := by
  induction lines generalizing written with
  | nil => trivial
  | cons line rest ih => exact ⟨rfl, ih _⟩

/-- An output takes all lines, or there is a first one that it refuses. -/
theorem takes_or_refuses (o : LineOutput) : ∀ lines written : List String,
    o.Takes written lines ∨ ∃ front line rest reason, lines = front ++ line :: rest ∧
      o.Takes written front ∧ o.write (front.reverse ++ written) line = .error reason
  | [], _ => .inl trivial
  | line :: rest, written => by
    cases hwrite : o.write written line with
    | error reason => exact .inr ⟨[], line, rest, reason, rfl, trivial, hwrite⟩
    | ok taken =>
      rcases o.takes_or_refuses rest (line :: written) with
        takes | ⟨front, refused, later, reason, rfl, takes, hrefused⟩
      · exact .inl ⟨hwrite, takes⟩
      · refine .inr ⟨line :: front, refused, later, reason, rfl, ⟨hwrite, takes⟩, ?_⟩
        rw [List.reverse_cons, List.append_assoc]
        exact hrefused

end LineOutput

namespace LinePrinter

variable {p : LinePrinter}

/-- The row of a document: the columns with their values. -/
def row (value : Column → Value) (columns : List Column) : Document :=
  columns.foldl (fun d column => d.insert column.name (value column)) .empty

/-- The line of a row. -/
def line (columns : List Column) (value : Column → Value) : String :=
  (row value columns).toJson.compact

/-- Print lines one after another, as long as the printer is open. -/
def printAll (p : LinePrinter) : List String → LinePrinter
  | [] => p
  | line :: rest => if p.isOpen then (p.print line).printAll rest else p

/-- The number of rows that have come in: those written, and the one that could not be. -/
def rows (p : LinePrinter) : Nat := p.written.length + if p.failure.isSome then 1 else 0

/-- Of lines that come in, those that the limit allows. -/
def wanted (p : LinePrinter) (lines : List String) : List String :=
  match p.limit with
  | none => lines
  | some n => lines.take (n - p.written.length)

theorem failure_of_isOpen (isOpen : p.isOpen = true) : p.failure = none :=
  Option.isNone_iff_eq_none.mp (Bool.and_eq_true_iff.mp isOpen).1

theorem isOpen_onto (output : LineOutput) {limit : Option Nat} (h : limit ≠ some 0) :
    (onto output limit).isOpen = true := by
  cases limit with
  | none => rfl
  | some n => simpa [isOpen, onto, Nat.pos_iff_ne_zero] using h

/-- What becomes of a line is up to the output. -/
theorem print_of_isOpen (isOpen : p.isOpen = true) (line : String) :
    p.print line = match p.output.write p.written line with
      | .ok () => { p with written := line :: p.written }
      | .error reason => { p with failure := some reason } := by
  rw [print, failure_of_isOpen isOpen]
  rfl

theorem print_of_taken (isOpen : p.isOpen = true) {line : String}
    (taken : p.output.write p.written line = .ok ()) :
    p.print line = { p with written := line :: p.written } := by
  rw [print_of_isOpen isOpen, taken]

@[simp] theorem current_print (p : LinePrinter) (line : String) :
    (p.print line).current = p.current := by
  unfold print
  split
  · rfl
  · split <;> rfl

theorem rows_print (isOpen : p.isOpen = true) (line : String) :
    (p.print line).rows = p.rows + 1 := by
  rw [print_of_isOpen isOpen]
  cases p.output.write p.written line <;> simp [rows, failure_of_isOpen isOpen]

theorem printAll_of_closed (closed : p.isOpen = false) : ∀ lines, p.printAll lines = p
  | [] => rfl
  | line :: rest => by rw [printAll, closed]; rfl

theorem printAll_cons (isOpen : p.isOpen = true) (line : String) (rest : List String) :
    p.printAll (line :: rest) = (p.print line).printAll rest := by
  rw [printAll, if_pos isOpen]

/-- A printer that prints everything. -/
structure Endless (p : LinePrinter) : Prop where
  output : p.output = .sound
  limit : p.limit = none
  failure : p.failure = none

theorem endless_onto : (onto .sound none).Endless := ⟨rfl, rfl, rfl⟩

theorem Endless.isOpen (endless : p.Endless) : p.isOpen = true := by
  simp [LinePrinter.isOpen, endless.limit, endless.failure]

theorem Endless.print_eq (endless : p.Endless) (line : String) :
    p.print line = { p with written := line :: p.written } :=
  print_of_taken endless.isOpen (by rw [endless.output]; rfl)

/-! ## 2. What an output is given -/

theorem wanted_of_closed (sane : p.failure = none) (closed : p.isOpen = false)
    (lines : List String) : p.wanted lines = [] := by
  simp only [isOpen, sane, Option.isNone_none, Bool.true_and] at closed
  cases hlimit : p.limit with
  | none => simp [hlimit] at closed
  | some n =>
    simp only [hlimit, Option.all_some, decide_eq_false_iff_not, Nat.not_lt] at closed
    simp only [wanted, hlimit, Nat.sub_eq_zero_of_le closed, List.take_zero]

theorem wanted_cons (isOpen : p.isOpen = true) (line : String) (rest : List String) :
    p.wanted (line :: rest) =
      line :: wanted { p with written := line :: p.written } rest := by
  cases hlimit : p.limit with
  | none => simp only [wanted, hlimit]
  | some n =>
    have hlt : p.written.length < n := by
      simpa [LinePrinter.isOpen, hlimit, failure_of_isOpen isOpen] using isOpen
    obtain ⟨k, rfl⟩ := Nat.exists_eq_add_of_lt hlt
    simp only [wanted, hlimit, List.length_cons]
    rw [show p.written.length + k + 1 - p.written.length = k + 1 by omega,
      show p.written.length + k + 1 - (p.written.length + 1) = k by omega, List.take_succ_cons]

/-- **An output that takes all lines up to the limit has them in the end.** -/
theorem printAll_of_takes : ∀ (lines : List String) {p : LinePrinter}, p.failure = none →
    p.output.Takes p.written (p.wanted lines) →
    p.printAll lines = { p with written := (p.wanted lines).reverse ++ p.written }
  | [], p, _, _ => by
    have hwanted : p.wanted [] = [] := by
      unfold wanted
      split
      · rfl
      · exact List.take_nil
    rw [hwanted]
    rfl
  | line :: rest, p, sane, takes => by
    cases hopen : p.isOpen with
    | false =>
      rw [printAll_of_closed hopen, wanted_of_closed sane hopen]
      rfl
    | true =>
      rw [wanted_cons hopen] at takes ⊢
      rw [printAll_cons hopen, print_of_taken hopen takes.1,
        printAll_of_takes rest (p := { p with written := line :: p.written }) sane takes.2,
        List.reverse_cons, List.append_assoc]
      rfl

/-- **An output that refuses a line has those before it in the end.** -/
theorem printAll_of_refused {line : String} {later : List String} {reason : String} :
    ∀ (lines front : List String) {p : LinePrinter}, p.failure = none →
      p.wanted lines = front ++ line :: later → p.output.Takes p.written front →
      p.output.write (front.reverse ++ p.written) line = .error reason →
      p.printAll lines = { p with written := front.reverse ++ p.written, failure := some reason }
  | [], front, p, _, hwanted, _, _ => by
    have hlength := congrArg List.length hwanted
    unfold wanted at hlength
    split at hlength <;> simp at hlength
  | first :: rest, front, p, sane, hwanted, takes, refused => by
    cases hopen : p.isOpen with
    | false =>
      rw [wanted_of_closed sane hopen] at hwanted
      simp at hwanted
    | true =>
      rw [wanted_cons hopen] at hwanted
      rw [printAll_cons hopen]
      cases front with
      | nil =>
        obtain ⟨rfl, -⟩ := List.cons.inj hwanted
        rw [List.reverse_nil, List.nil_append] at refused ⊢
        rw [print_of_isOpen hopen, refused]
        exact printAll_of_closed rfl rest
      | cons line' front =>
        obtain ⟨rfl, hrest⟩ := List.cons.inj hwanted
        rw [List.reverse_cons, List.append_assoc] at refused ⊢
        rw [print_of_taken hopen takes.1]
        exact printAll_of_refused rest front sane hrest takes.2 refused

/-- A pipe that is closed after a line. -/
example :
    let pipe : LineOutput :=
      ⟨fun written _ => if written.isEmpty then .ok () else .error "pipe closed", fun _ => .ok ()⟩
    let p := (onto pipe none).printAll ["a", "b", "c"]
    p.lines = ["a"] ∧ p.finish = .error (.notWritten "pipe closed") := ⟨rfl, rfl⟩

end LinePrinter

/-! ## 3. A scan beside one that prints everything -/

namespace Scanner

open LinePrinter

theorem offer_printer (p : LinePrinter) (row : Nat) (column : Column) (v : Value) :
    offer sink p row column v = (.ok true, p.offer column.name v) := by
  unfold offer
  by_cases hc : column.kind.isComplex = true
  · rw [if_pos hc]
    rfl
  · rw [if_neg hc]
    rfl

/-- The printer accepts all values. -/
theorem offerAll_printer (row : Nat) (value : Column → Value) : ∀ (columns : List Column)
    (p : LinePrinter), offerAll sink row value p columns =
      (.ok true, { p with
        current := columns.foldl (fun d column => d.insert column.name (value column)) p.current })
  | [], p => rfl
  | column :: rest, p => by
    rw [offerAll, offer_printer]
    exact offerAll_printer row value rest _

/-- A row is a line. -/
theorem offerRow_printer (summary : ScanSummary) (value : Column → Value) (columns : List Column)
    {p : LinePrinter} (fresh : p.current = .empty) :
    offerRow sink summary value p columns =
      (.ok (summary.next true), p.print (line columns value)) := by
  rw [offerRow, offerAll_printer, fresh]
  obtain ⟨output, limit, written, current, failure⟩ := p
  obtain rfl : current = .empty := fresh
  rfl

/-- What a scan into a printer comes to, beside one that prints everything, `lines` in all. -/
structure Beside (p : LinePrinter) (lines : List String)
    (full actual : Except ScanError ScanSummary × Chain × LinePrinter) : Prop where
  printed : actual.2.2 = p.printAll lines
  /-- A scan that has been stopped ends well. -/
  stopped : actual.2.2.isOpen = false → actual.1 = .ok ⟨actual.2.2.rows, actual.2.2.rows⟩
  /-- If the scan has not been stopped, both end in the same way. -/
  same : actual.2.2.isOpen = true → actual.1 = full.1 ∧ actual.2.1 = full.2.1

variable {s : Scanner} {table : String} {columns : List Column} {chain : Chain} {p : LinePrinter}

/-- Where the printer is not open, the one scan stops and the other only adds lines. -/
theorem beside_of_closed (closed : p.isOpen = false) (lines : List String)
    (full : Except ScanError ScanSummary × Chain × LinePrinter) :
    Beside p lines full (s.readRows sink table columns ⟨p.rows, p.rows⟩ chain p) := by
  have hstopped : s.readRows sink table columns ⟨p.rows, p.rows⟩ chain p =
      (.ok ⟨p.rows, p.rows⟩, chain, p) := by
    rw [readRows_eq, show sink.isLive p = (false, p) from Prod.ext closed rfl]
  rw [hstopped]
  exact ⟨(printAll_of_closed closed lines).symm, fun _ => rfl,
    fun isOpen => by simp [closed] at isOpen⟩

/-- Where the one scan ends before a row, so does the other. -/
theorem beside_of_ended {result : Except ScanError ScanSummary} {chain' : Chain}
    (ended : p.isOpen = true →
      s.readRows sink table columns ⟨p.rows, p.rows⟩ chain p = (result, chain', p))
    (q : LinePrinter) :
    Beside p [] (result, chain', q) (s.readRows sink table columns ⟨p.rows, p.rows⟩ chain p) := by
  cases hopen : p.isOpen with
  | false => exact beside_of_closed hopen _ _
  | true =>
    rw [ended hopen]
    exact ⟨rfl, fun closed => by simp [hopen] at closed, fun _ => ⟨rfl, rfl⟩⟩

/-- **Two scans side by side.**  The one prints a line of each row that it reads; with another
printer the scan does the same for as long as that is open. -/
theorem readRows_beside (s : Scanner) (table : String) (columns : List Column)
    (summary : ScanSummary) (chain : Chain) (q : LinePrinter) :
    q.Endless → q.current = .empty → ∃ rows : List (Column → Value),
      (s.readRows sink table columns summary chain q).2.2.lines =
        q.lines ++ rows.map (line columns) ∧
      ∀ p : LinePrinter, p.current = .empty → summary = ⟨p.rows, p.rows⟩ →
        Beside p (rows.map (line columns)) (s.readRows sink table columns summary chain q)
          (s.readRows sink table columns summary chain p) := by
  have hlive {p : LinePrinter} (isOpen : p.isOpen = true) : sink.isLive p = (true, p) :=
    Prod.ext isOpen rfl
  fun_induction readRows s sink table columns summary chain q with
  | case1 summary chain q q' hl =>
    intro endless
    cases (congrArg Prod.fst (hlive endless.isOpen)).symm.trans (congrArg Prod.fst hl)
  | case2 summary chain q q' hl e chain' hn | case3 summary chain q q' hl chain' hn =>
    refine fun _ _ => ⟨[], ?_, fun p _ hsummary => ?_⟩
    · obtain rfl : q = q' := congrArg Prod.snd hl
      exact (List.append_nil _).symm
    · subst hsummary
      refine beside_of_ended (fun isOpen => ?_) _
      rw [readRows_eq, hlive isOpen, hn]
  | case4 summary chain q q' hl fetched hn hd =>
    refine fun _ _ => ⟨[], ?_, fun p _ hsummary => ?_⟩
    · obtain rfl : q = q' := congrArg Prod.snd hl
      exact (List.append_nil _).symm
    · subst hsummary
      refine beside_of_ended (fun isOpen => ?_) _
      rw [readRows_eq, hlive isOpen, hn]
      simp only [hd]
  | case5 summary chain q q' hl fetched hn captures d hd e q'' hr =>
    intro _ fresh
    obtain rfl : q = q' := congrArg Prod.snd hl
    rw [offerRow_printer _ _ _ fresh] at hr
    cases hr
  | case6 summary chain q q' hl fetched hn captures d hd summary' q'' hr ih =>
    intro endless fresh
    obtain rfl : q = q' := congrArg Prod.snd hl
    rw [offerRow_printer _ _ _ fresh, endless.print_eq] at hr
    obtain ⟨hnext, rfl⟩ := Prod.mk.inj hr
    obtain rfl := Except.ok.inj hnext
    obtain ⟨rows, hrows, beside⟩ := ih ⟨endless.output, endless.limit, endless.failure⟩ fresh
    refine ⟨s.value captures d :: rows, ?_, fun p hfresh hsummary => ?_⟩
    · rw [hrows, List.map_cons, lines, List.reverse_cons, List.append_assoc]
      rfl
    · subst hsummary
      cases hopen : p.isOpen with
      | false => exact beside_of_closed hopen _ _
      | true =>
        have hround : s.readRows sink table columns ⟨p.rows, p.rows⟩ chain p =
            s.readRows sink table columns (ScanSummary.next ⟨p.rows, p.rows⟩ true) fetched.take.2
              (p.print (line columns (s.value captures d))) := by
          rw [readRows_eq, hlive hopen, hn]
          simp only [hd, offerRow_printer _ _ _ hfresh]
          rfl
        obtain ⟨printed, stopped, same⟩ := beside (p.print (line columns (s.value captures d)))
          ((current_print _ _).trans hfresh) (by rw [rows_print hopen]; rfl)
        rw [hround, List.map_cons]
        exact ⟨printed.trans (printAll_cons hopen _ _).symm, stopped, same⟩

/-! ## 4. Scans -/

/-- The loop of a scan that prints. -/
def printing (s : Scanner) (request : ScanRequest) (collections : List String) (ledger : Ledger)
    (p : LinePrinter) : Except ScanError ScanSummary × Chain × LinePrinter :=
  s.readRows sink request.source request.schema.columns .empty
    (.start (s.rowQuery request) collections ledger) p

theorem run_printing {request : ScanRequest} {collections : List String}
    (h : s.patterns.resolve s.store request.database request.source = .ok collections)
    (ledger : Ledger) (p : LinePrinter) :
    let scan := s.printing request collections ledger p
    s.run request sink p ledger =
      (scan.1.bind fun summary => (scan.2.1.close.1.mapError .cursor).bind fun _ => .ok summary,
        scan.2.2, scan.2.1.close.2.ledger) :=
  run_of_collections h sink p ledger

/-- A scan that prints everything prints lines of rows of the columns of the request. -/
theorem run_prints (s : Scanner) (request : ScanRequest) (ledger : Ledger) :
    ∃ rows : List (Column → Value),
      (s.run request sink (.onto .sound none) ledger).2.1.lines =
        rows.map (line request.schema.columns) := by
  cases h : s.patterns.resolve s.store request.database request.source with
  | error e =>
    rw [run_of_resolve_error h]
    exact ⟨[], rfl⟩
  | ok collections =>
    rw [run_printing h]
    obtain ⟨rows, hrows, -⟩ := s.readRows_beside request.source request.schema.columns .empty
      (.start (s.rowQuery request) collections ledger) (.onto .sound none) endless_onto rfl
    exact ⟨rows, hrows⟩

/-- **A scan into a printer prints what another prints, for as long as the printer is open.**  Where
all cursors can be closed, a scan that has been stopped by its printer has read a document for each
line and ends well, whatever the scan that prints everything comes to after that; one that has not
been stopped ends in the same way as that. -/
theorem run_beside (s : Scanner) (request : ScanRequest) (ledger : Ledger)
    (closes : ∀ collection rows, s.rowQuery request collection = .ok rows → rows.close.1 = .ok ())
    (output : LineOutput) {limit : Option Nat} (positive : limit ≠ some 0) :
    let full := s.run request sink (.onto .sound none) ledger
    let actual := s.run request sink (.onto output limit) ledger
    actual.2.1 = (onto output limit).printAll full.2.1.lines ∧
      (actual.2.1.isOpen = false → actual.1 = .ok ⟨actual.2.1.rows, actual.2.1.rows⟩) ∧
      (actual.2.1.isOpen = true → actual.1 = full.1) := by
  cases h : s.patterns.resolve s.store request.database request.source with
  | error e =>
    simp only [run_of_resolve_error h]
    exact ⟨rfl, fun closed => by simp [isOpen_onto output positive] at closed, fun _ => trivial⟩
  | ok collections =>
    simp only [run_printing h]
    obtain ⟨rows, hrows, beside⟩ := s.readRows_beside request.source request.schema.columns .empty
      (.start (s.rowQuery request) collections ledger) (.onto .sound none) endless_onto rfl
    obtain ⟨printed, stopped, same⟩ := beside (.onto output limit) rfl rfl
    refine ⟨printed.trans (congrArg _ hrows.symm), fun closed => ?_, fun isOpen => ?_⟩
    · have hok := stopped closed
      obtain ⟨_, progress, -⟩ := readRows_handedOut (Chain.handedOut_start ..) hok
      have hclose := progress.close_eq_ok closes
      simp only [printing, hok, hclose, Except.bind, Except.mapError]
    · obtain ⟨hresult, hchain⟩ := same isOpen
      simp only [printing, hresult, hchain]

end Scanner

end DocTables
