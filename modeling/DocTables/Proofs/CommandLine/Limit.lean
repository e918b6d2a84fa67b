/-
# Scans with a limit

A scan that is told to stop after a number of rows prints the first lines of the scan without a
limit, also if that fails later; and if there are as many, it ends well and reports that it has read
as many documents (`CommandLine.scan_limited`).  Every line is a JSON object with the columns of the
table in order (`LinePrinter.line_eq`).

Both scans are one that prints everything, cut by a printer (`Session.scan_beside`).
-/
import DocTables.Proofs.CommandLine.Output
import DocTables.Proofs.Value.RoundTrip

namespace DocTables

/-! ## 1. The columns of a table -/

theorem Schema.distinct_foldl_upsert {s : Schema} (h : s.Distinct) (columns : List Column) :
    (columns.foldl Schema.upsert s).Distinct := by
  induction columns generalizing s with
  | nil => exact h
  | cons column columns ih => exact ih (h.upsert column)

theorem Schema.distinct_ofColumns (columns : List Column) : (Schema.ofColumns columns).Distinct :=
  distinct_foldl_upsert (s := .empty) List.nodup_nil columns

/-- The schema of a table that is not taken from another catalog has distinct columns. -/
theorem Catalog.distinct_of_table {c : Catalog} {ledger : Ledger} {database table : String}
    {info : TableInfo} (unflagged : c.supplementalSchema? database table = none)
    (h : (c.table ledger database table).1 = .ok info) : info.schema.Distinct := by
  cases hres : c.patterns.resolve c.store database table with
  | error e =>
    simp [Catalog.table, unflagged, inferredSchema, hres, Except.map] at h
  | ok collections =>
    rw [(table_of_unflagged unflagged hres ledger).1] at h
    cases hs : ((Chain.start (c.sampleQuery database) collections ledger).inferSchema
        c.sampleSize).1 with
    | error e => simp [hs, Except.mapError, Except.map] at h
    | ok schema =>
      obtain ⟨documents, -, rfl⟩ := Chain.inferSchema_eq_ok hs
      rw [hs] at h
      obtain rfl := Except.ok.inj h
      exact Schema.distinct_foldl_upsert (Schema.distinct_ofColumns _) _

namespace LinePrinter

/-- A row has the columns in order. -/
theorem row_eq {columns : List Column} (distinct : (columns.map (·.name)).Nodup)
    (value : Column → Value) :
    row value columns = ⟨columns.map fun column => (column.name, value column)⟩ :=
  Fields.foldl_insert_map distinct value

/-- A line is a JSON object that has the columns in order. -/
theorem line_eq {columns : List Column} (distinct : (columns.map (·.name)).Nodup)
    (value : Column → Value) :
    line columns value =
      (Json.object (columns.map fun column => (column.name, (value column).toJson))).compact := by
  rw [line, row_eq distinct]
  simp only [Document.toJson, Value.toJson, Value.entriesToJson_eq_map, List.map_map]
  rfl

end LinePrinter

namespace CommandLine

/-! ## 2. Scans -/

/-- A limit is of no matter before the scan begins, unless it is zero. -/
theorem ScanTask.prepare_limit (t : ScanTask) (session : Except CommandError Session) {n : Nat}
    (positive : 0 < n) :
    ({ t with limit := some n } : ScanTask).prepare session =
      ({ t with limit := none } : ScanTask).prepare session := by
  have hzero : ¬(some n == some 0) = true := by simpa using Nat.ne_of_gt positive
  have hnone : ¬((none : Option Nat) == some 0) = true := by simp
  simp only [prepare, if_neg hzero, if_neg hnone]

/-- At the limit, the scan ends well; where it is not reached, it does not matter. -/
theorem Session.scan_upTo {files : Files} {environment : List (String × String)} {i : Invocation}
    {session : Session} (h : openSession files environment i id = .ok session)
    (request : ScanRequest) {n : Nat} (positive : 0 < n) :
    (n ≤ (session.lines request none).length →
        (session.scan request (.onto .sound (some n))).1 = .ok ⟨n, n⟩) ∧
      ((session.lines request none).length < n →
        (session.scan request (.onto .sound (some n))).1 =
          (session.scan request (.onto .sound none)).1) := by
  have hlimit : (some n : Option Nat) ≠ some 0 := by simpa using Nat.ne_of_gt positive
  obtain ⟨hprinter, -⟩ := Session.scan_of_takes h request hlimit (LineOutput.takes_sound [] _)
  obtain ⟨-, stopped, same⟩ := session.scan_beside h request .sound hlimit
  rw [hprinter] at stopped same
  have hlength : (session.lines request (some n)).reverse.length =
      min n (session.lines request none).length := by
    rw [List.length_reverse]
    exact List.length_take
  constructor
  · intro hle
    rw [Nat.min_eq_left hle] at hlength
    have hclosed : (LinePrinter.mk .sound (some n) (session.lines request (some n)).reverse .empty
        none).isOpen = false := by
      simp [LinePrinter.isOpen, hlength]
    rw [stopped hclosed, LinePrinter.rows, hlength]
    rfl
  · intro hlt
    rw [Nat.min_eq_right (Nat.le_of_lt hlt)] at hlength
    refine same ?_
    simpa [LinePrinter.isOpen, hlength] using hlt

/-- What is printed of a table with a limit, beside what is printed without. -/
theorem ScanTask.run_limited (files : Files) (environment : List (String × String)) (i : Invocation)
    (database table : String) (filter : Option String) {n : Nat} (positive : 0 < n) :
    let run (limit : Option Nat) :=
      ScanTask.run ⟨database, table, limit, filter⟩ .sound (openSession files environment i id)
    (run (some n)).output = (run none).output.take n ∧
      (n ≤ (run none).output.length →
        run (some n) = .done ((run none).output.take n) [summaryLine ⟨n, n⟩]) ∧
      ((run none).output.length < n → run (some n) = run none) := by
  intro run
  have hprepare := ScanTask.prepare_limit ⟨database, table, none, filter⟩
    (openSession files environment i id) positive
  cases hp : (⟨database, table, none, filter⟩ : ScanTask).prepare
      (openSession files environment i id) with
  | error e =>
    have hsame : run (some n) = run none := by
      rw [show run (some n) = _ from run_of_prepare_error (hprepare.trans hp) .sound,
        show run none = _ from run_of_prepare_error hp .sound]
      rfl
    have houtput : (run none).output = [] :=
      congrArg Outcome.output (run_of_prepare_error hp .sound)
    rw [hsame, houtput]
    exact ⟨List.take_nil.symm, fun hle => absurd hle (Nat.not_le.mpr positive), fun _ => rfl⟩
  | ok prepared =>
    obtain ⟨session, request⟩ := prepared
    have hlimited := hprepare.trans hp
    obtain ⟨-, hopened, -⟩ := prepare_eq_ok hp
    obtain ⟨hreached, hunreached⟩ := Session.scan_upTo hopened request positive
    have houtput : (run none).output = session.lines request none := output_run_sound hp
    have hcut : session.lines request (some n) = (session.lines request none).take n := rfl
    rw [houtput]
    refine ⟨(output_run_sound hlimited).trans hcut, fun hle => ?_, fun hlt => ?_⟩
    · rw [show run (some n) = _ from run_of_takes hlimited (LineOutput.takes_sound [] _),
        hreached hle, hcut, outcome, LinePrinter.lines, List.reverse_reverse]
      rfl
    · rw [show run (some n) = _ from run_of_takes hlimited (LineOutput.takes_sound [] _),
        show run none = _ from run_of_takes hp (LineOutput.takes_sound [] _), hunreached hlt, hcut,
        List.take_of_length_le (Nat.le_of_lt hlt)]
      cases (session.scan request (.onto .sound none)).1 <;> rfl

/-- A line that is printed of a table is a JSON object that has the columns in order. -/
theorem ScanTask.line_of_mem {t : ScanTask} {files : Files} {environment : List (String × String)}
    {i : Invocation} {line : String} (unlimited : t.limit = none)
    (h : line ∈ (t.run .sound (openSession files environment i id)).output) :
    ∃ opened info members, openSession files environment i id = .ok opened ∧
      (opened.catalog.table .empty t.database t.table).1 = .ok info ∧
      members.map Prod.fst = info.schema.names ∧ line = (Json.object members).compact := by
  cases hp : t.prepare (openSession files environment i id) with
  | error e => simp [run_of_prepare_error hp, Outcome.failed] at h
  | ok prepared =>
    obtain ⟨opened, request⟩ := prepared
    obtain ⟨-, hsession, info, hinfo, hschema⟩ := prepare_eq_ok hp
    obtain ⟨rows, hrows⟩ :=
      Scanner.run_prints (.ofConfig opened.store opened.config) request .empty
    have hlines : opened.lines request none = rows.map (LinePrinter.line request.schema.columns) :=
      hrows
    rw [output_run_sound hp, unlimited, hlines] at h
    obtain ⟨value, -, rfl⟩ := List.mem_map.mp h
    have distinct : request.schema.Distinct := hschema ▸ Catalog.distinct_of_table rfl hinfo
    refine ⟨opened, info, _, hsession, hinfo, ?_, LinePrinter.line_eq distinct value⟩
    rw [List.map_map, ← hschema]
    rfl

/-- **A limit cuts the lines that a scan prints, and nothing else.**  With a limit a scan prints the
first lines that it prints without, even if it fails without; if there are as many, it ends well and
reports as many documents and rows; and if there are fewer, the limit does not matter.  Every line
is a JSON object that has the columns of the table in order. -/
theorem scan_limited (files : Files) (environment : List (String × String)) (i : Invocation)
    (database table : String) (filter : Option String) {n : Nat} (positive : 1 ≤ n) :
    let full := perform files environment { i with command := .scan database table none filter }
    let limited :=
      perform files environment { i with command := .scan database table (some n) filter }
    limited.output = full.output.take n ∧
      (n ≤ full.output.length → limited = .done (full.output.take n) [summaryLine ⟨n, n⟩]) ∧
      (full.output.length < n → limited = full) ∧
      ∀ line ∈ full.output, ∃ session info members,
        openSession files environment i id = .ok session ∧
        (session.catalog.table .empty database table).1 = .ok info ∧
        members.map Prod.fst = info.schema.names ∧ line = (Json.object members).compact := by
  intro full limited
  obtain ⟨hlines, hreached, hunreached⟩ :=
    ScanTask.run_limited files environment i database table filter positive
  exact ⟨hlines, hreached, hunreached, fun _ => ScanTask.line_of_mem rfl⟩

/-- A collection with one document and, after it, a line that is no JSON. -/
def tornFiles : Files :=
  ⟨.folder [("d", .folder [("t.jsonl", .file "\x7b\"a\": true\x7d\n[".toUTF8.data.toList)])], []⟩

/-- Schemas are to be inferred from one document. -/
def tornEnvironment : List (String × String) := [(Config.sampleSizeVariable, "1")]

/-- A scan of the collection. -/
def tornScan (limit : Option Nat) : Invocation := ⟨"/", some "/", "c", .scan "d" "t" limit none⟩

/-- Its session. -/
def tornSession : Session :=
  ⟨{ Config.default with sampleSize := 1 }, JsonLinesStore.toStore ⟨tornFiles, "/"⟩⟩

/-- What it scans. -/
def tornRequest : ScanRequest where
  database := "d"
  table := "t"
  schema := match (tornSession.catalog.table .empty "d" "t").1 with
    | .ok info => info.schema
    | .error _ => .empty
  filter := .empty

theorem openSession_torn :
    openSession tornFiles tornEnvironment (tornScan none) id = .ok tornSession := rfl

theorem prepare_torn : (⟨"d", "t", none, none⟩ : ScanTask).prepare (.ok tornSession) =
    .ok (tornSession, tornRequest) := by
  have hok : (tornSession.catalog.table .empty "d" "t").1.toBool = true := by decide +kernel
  cases hinfo : (tornSession.catalog.table .empty "d" "t").1 with
  | error e => simp [hinfo, Except.toBool] at hok
  | ok info =>
    change (Except.mapError _ (tornSession.catalog.table .empty "d" "t").1).bind _ = _
    rw [hinfo, tornRequest, hinfo]
    rfl

theorem resolve_torn :
    (PatternSet.ofText "").resolve tornSession.store "d" tornRequest.source = .ok ["t"] := by
  have hnames : ((PatternSet.ofText "").resolve tornSession.store "d" tornRequest.source).toOption =
      some ["t"] := by decide +kernel
  cases hresolve : (PatternSet.ofText "").resolve tornSession.store "d" tornRequest.source with
  | error e => simp [hresolve, Except.toOption] at hnames
  | ok names => simpa [hresolve, Except.toOption] using hnames

/-- The scan prints a line and then fails: two rounds. -/
theorem scan_torn :
    (tornSession.scan tornRequest (.onto .sound none)).2.1.lines = ["\x7b\"a\":true\x7d"] ∧
      (tornSession.scan tornRequest (.onto .sound none)).1.toBool = false := by
  have hround := funext fun summary => funext fun chain => funext fun p =>
    Scanner.readRows_eq (.ofConfig tornSession.store tornSession.config) LinePrinter.sink
      tornRequest.source tornRequest.schema.columns summary chain p
  rw [Session.scan, Scanner.run_printing resolve_torn, Scanner.printing, hround, hround]
  decide +kernel

/-- The limit keeps the scan from the line on which it fails without. -/
theorem scan_limited_torn :
    1 ≤ 1 ∧
    (perform tornFiles tornEnvironment (tornScan none)).output = ["\x7b\"a\":true\x7d"] ∧
    (perform tornFiles tornEnvironment (tornScan none)).code = 1 ∧
    perform tornFiles tornEnvironment (tornScan (some 1)) =
      .done ["\x7b\"a\":true\x7d"] ["1 document(s) read, 1 row(s) written"] := by
  have hrun : perform tornFiles tornEnvironment (tornScan none) =
      ScanTask.run ⟨"d", "t", none, none⟩ .sound (.ok tornSession) :=
    congrArg (ScanTask.run ⟨"d", "t", none, none⟩ .sound) openSession_torn
  obtain ⟨hlines, hfailed⟩ := scan_torn
  rw [ScanTask.run_of_prepare prepare_torn] at hrun
  have houtput : (perform tornFiles tornEnvironment (tornScan none)).output =
      ["\x7b\"a\":true\x7d"] := by
    rw [hrun, ScanTask.output_outcome]
    exact hlines
  have hcode : (perform tornFiles tornEnvironment (tornScan none)).code = 1 := by
    rw [hrun]
    simp only
    cases hresult : (tornSession.scan tornRequest (.onto .sound none)).1 with
    | ok summary => simp [hresult, Except.toBool] at hfailed
    | error e => rfl
  obtain ⟨-, hreached, -, -⟩ :=
    scan_limited tornFiles tornEnvironment (tornScan none) "d" "t" none (Nat.le_refl 1)
  have hlimited := hreached (Nat.le_of_eq (congrArg List.length houtput).symm)
  refine ⟨Nat.le_refl 1, houtput, hcode, hlimited.trans ?_⟩
  exact congrArg₂ Outcome.done (congrArg (List.take 1) houtput) rfl

end CommandLine

end DocTables
