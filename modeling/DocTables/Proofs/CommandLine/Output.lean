/-
# Scans on an output that can fail

A scan prints lines on its output one after another.  If the output takes all of them, the scan
comes to the end that it comes to on an output that never fails, save that flushing it can still
fail.  If it refuses a line, the scan is over: it has printed the lines before that one and fails
for the reason that the output gives, whatever comes after (`ScanTask.run_onto`).

What the loop does is the matter of `Scanner.run_beside`.  It takes that cursors on files can always
be closed (`JsonLinesStore.close_eq_ok`).
-/
import DocTables.CommandLine
import DocTables.Proofs.Scan.Printed
import DocTables.Proofs.Store.Names

namespace DocTables

/-! ## 1. Cursors on files -/

/-- Cursors on files can be closed. -/
theorem JsonLinesStore.close_eq_ok {s : JsonLinesStore} {database collection : String} {q : Query}
    {rows : Rows} (h : s.find database collection q = .ok rows) : rows.close.1 = .ok () := by
  obtain ⟨-, bytes, -, rfl⟩ := find_eq_ok_iff.mp h
  rfl

namespace CommandLine

/-- The store of a session is one of files. -/
theorem store_of_openSession {files : Files} {environment : List (String × String)} {i : Invocation}
    {adjust : Config → Config} {session : Session}
    (h : openSession files environment i adjust = .ok session) :
    ∃ s : JsonLinesStore, session.store = s.toStore := by
  unfold openSession at h
  cases hload : (Config.load files environment i.configFolder).mapError CommandError.config with
  | error e => simp [hload, bind, Except.bind] at h
  | ok config =>
    cases hconnection : connection i (adjust config) with
    | error e => simp [hload, hconnection, bind, Except.bind] at h
    | ok text =>
      simp only [hload, hconnection, bind, Except.bind] at h
      split at h
      · simp at h
      · rename_i store _
        obtain rfl := Except.ok.inj h
        exact ⟨store, rfl⟩

/-! ## 2. What a scan prepares and does -/

theorem ScanTask.prepare_eq_ok {t : ScanTask} {session : Except CommandError Session}
    {opened : Session} {request : ScanRequest} (h : t.prepare session = .ok (opened, request)) :
    t.limit ≠ some 0 ∧ session = .ok opened ∧
      ∃ info, (opened.catalog.table .empty t.database t.table).1 = .ok info ∧
        request.schema = info.schema := by
  -- The filter goes into the request and has no part in what is opened.
  have hopened {filter : Document} (h : (session.bind fun session =>
      ((session.catalog.table .empty t.database t.table).1.mapError CommandError.catalog).bind
        fun info => .ok (session, ⟨t.database, t.table, info.schema, filter⟩)) =
      .ok (opened, request)) :
      session = .ok opened ∧ ∃ info, (opened.catalog.table .empty t.database t.table).1 = .ok info ∧
        request.schema = info.schema := by
    cases session with
    | error e => cases h
    | ok session =>
      cases htable : (session.catalog.table .empty t.database t.table).1 with
      | error e => simp [Except.bind, htable, Except.mapError] at h
      | ok info =>
        simp only [Except.bind, htable, Except.mapError] at h
        obtain ⟨rfl, rfl⟩ := Prod.mk.inj (Except.ok.inj h)
        exact ⟨rfl, info, htable, rfl⟩
  unfold prepare at h
  by_cases hzero : (t.limit == some 0) = true
  · simp [hzero, bind, Except.bind, throw, throwThe, MonadExceptOf.throw] at h
  · refine ⟨fun hlimit => hzero (beq_iff_eq.mpr hlimit), ?_⟩
    simp only [if_neg hzero] at h
    split at h
    · rename_i text _
      cases hparsed : parseFilter text with
      | error e =>
        rw [hparsed] at h
        cases h
      | ok filter =>
        rw [hparsed] at h
        exact hopened h
    · exact hopened h

/-- The task of a scan, as its errors name it. -/
def ScanTask.title (t : ScanTask) : String := "Failed to scan " ++ t.database ++ "." ++ t.table

theorem ScanTask.run_of_prepare_error {t : ScanTask} {session : Except CommandError Session}
    {e : CommandError} (h : t.prepare session = .error e) (output : LineOutput) :
    t.run output session = .failed t.title [] e := by
  unfold run
  rw [h]
  rfl

/-- The scan of a session into a printer. -/
def Session.scan (session : Session) (request : ScanRequest) (p : LinePrinter) :
    Except ScanError ScanSummary × LinePrinter × Ledger :=
  (Scanner.ofConfig session.store session.config).run request LinePrinter.sink p .empty

/-- How a scan ends that comes to a result and leaves a printer. -/
def ScanTask.outcome (t : ScanTask) (scanned : Except ScanError ScanSummary) (p : LinePrinter) :
    Outcome :=
  match scanned with
  | .error e => .failed t.title p.lines (.scan e)
  | .ok summary =>
    match p.finish with
    | .error e => .failed t.title p.lines (.output e)
    | .ok () => .done p.lines [summaryLine summary]

theorem ScanTask.run_of_prepare {t : ScanTask} {session : Except CommandError Session}
    {opened : Session} {request : ScanRequest} (h : t.prepare session = .ok (opened, request))
    (output : LineOutput) :
    t.run output session = t.outcome (opened.scan request (.onto output t.limit)).1
      (opened.scan request (.onto output t.limit)).2.1 := by
  unfold run
  rw [h]
  rfl

theorem ScanTask.output_outcome (t : ScanTask) (scanned : Except ScanError ScanSummary)
    (p : LinePrinter) : (t.outcome scanned p).output = p.lines := by
  unfold outcome
  split
  · rfl
  · split <;> rfl

/-! ## 3. Scans on an output -/

section

variable {files : Files} {environment : List (String × String)} {i : Invocation}
  {session : Session} {limit : Option Nat} {output : LineOutput}

/-- The lines that a scan prints on an output that never fails: those that the limit allows. -/
def Session.lines (session : Session) (request : ScanRequest) (limit : Option Nat) : List String :=
  (LinePrinter.onto .sound limit).wanted (session.scan request (.onto .sound none)).2.1.lines

theorem Session.scan_beside (h : openSession files environment i id = .ok session)
    (request : ScanRequest) (output : LineOutput) (positive : limit ≠ some 0) :
    let full := session.scan request (.onto .sound none)
    let actual := session.scan request (.onto output limit)
    actual.2.1 = (LinePrinter.onto output limit).printAll full.2.1.lines ∧
      (actual.2.1.isOpen = false → actual.1 = .ok ⟨actual.2.1.rows, actual.2.1.rows⟩) ∧
      (actual.2.1.isOpen = true → actual.1 = full.1) := by
  obtain ⟨s, hstore⟩ := store_of_openSession h
  refine Scanner.run_beside _ request .empty (fun collection rows hfind => ?_) output positive
  rw [Scanner.rowQuery, Scanner.ofConfig, hstore] at hfind
  exact JsonLinesStore.close_eq_ok hfind

/-- An output that takes all lines has them, and how the scan ends does not depend on it. -/
theorem Session.scan_of_takes (h : openSession files environment i id = .ok session)
    (request : ScanRequest) (positive : limit ≠ some 0)
    (takes : output.Takes [] (session.lines request limit)) :
    (session.scan request (.onto output limit)).2.1 =
        ⟨output, limit, (session.lines request limit).reverse, .empty, none⟩ ∧
      (session.scan request (.onto output limit)).1 =
        (session.scan request (.onto .sound limit)).1 := by
  have hprinter {o : LineOutput} (takes : o.Takes [] (session.lines request limit)) :
      (session.scan request (.onto o limit)).2.1 =
        ⟨o, limit, (session.lines request limit).reverse, .empty, none⟩ := by
    rw [(session.scan_beside h request o positive).1,
      LinePrinter.printAll_of_takes (p := .onto o limit) _ rfl takes]
    exact congrArg (LinePrinter.mk o limit · .empty none) (List.append_nil _)
  have hactual := hprinter takes
  have hsound := hprinter (LineOutput.takes_sound [] _)
  refine ⟨hactual, ?_⟩
  obtain ⟨-, stopped, same⟩ := session.scan_beside h request output positive
  obtain ⟨-, stopped', same'⟩ := session.scan_beside h request .sound positive
  rw [hactual] at stopped same
  rw [hsound] at stopped' same'
  cases hopen : (LinePrinter.mk output limit (session.lines request limit).reverse .empty
      none).isOpen with
  | false => rw [stopped hopen, stopped' hopen]; rfl
  | true => rw [same hopen, same' hopen]

/-- An output that refuses a line has those before it, and the scan of the store ends well. -/
theorem Session.scan_of_refused (h : openSession files environment i id = .ok session)
    (request : ScanRequest) (positive : limit ≠ some 0) {front later : List String}
    {line reason : String} (lines : session.lines request limit = front ++ line :: later)
    (takes : output.Takes [] front) (refused : output.write front.reverse line = .error reason) :
    (session.scan request (.onto output limit)).2.1 =
        ⟨output, limit, front.reverse, .empty, some reason⟩ ∧
      ∃ summary, (session.scan request (.onto output limit)).1 = .ok summary := by
  obtain ⟨printed, stopped, -⟩ := session.scan_beside h request output positive
  have hprinter : (session.scan request (.onto output limit)).2.1 =
      ⟨output, limit, front.reverse, .empty, some reason⟩ := by
    rw [printed, LinePrinter.printAll_of_refused (p := .onto output limit) _ front rfl lines takes
      (by rw [← refused]; exact congrArg (output.write · line) (List.append_nil _))]
    exact congrArg (LinePrinter.mk output limit · .empty (some reason)) (List.append_nil _)
  refine ⟨hprinter, _, stopped ?_⟩
  rw [hprinter]
  rfl

/-! ## 4. The end of a scan -/

variable {t : ScanTask} {request : ScanRequest}

theorem ScanTask.run_of_takes
    (h : t.prepare (openSession files environment i id) = .ok (session, request))
    (takes : output.Takes [] (session.lines request t.limit)) :
    t.run output (openSession files environment i id) =
      t.outcome (session.scan request (.onto .sound t.limit)).1
        ⟨output, t.limit, (session.lines request t.limit).reverse, .empty, none⟩ := by
  obtain ⟨positive, hopened, -⟩ := prepare_eq_ok h
  obtain ⟨hprinter, hresult⟩ := Session.scan_of_takes hopened request positive takes
  rw [run_of_prepare h, hprinter, hresult]

theorem ScanTask.output_run_sound
    (h : t.prepare (openSession files environment i id) = .ok (session, request)) :
    (t.run .sound (openSession files environment i id)).output =
      session.lines request t.limit := by
  rw [run_of_takes h (LineOutput.takes_sound [] _), output_outcome, LinePrinter.lines,
    List.reverse_reverse]

theorem ScanTask.run_of_refused
    (h : t.prepare (openSession files environment i id) = .ok (session, request))
    {front later : List String} {line reason : String}
    (lines : session.lines request t.limit = front ++ line :: later)
    (takes : output.Takes [] front) (refused : output.write front.reverse line = .error reason) :
    t.run output (openSession files environment i id) =
      .failed t.title front (.output (.notWritten reason)) := by
  obtain ⟨positive, hopened, -⟩ := prepare_eq_ok h
  obtain ⟨hprinter, summary, hok⟩ :=
    Session.scan_of_refused hopened request positive lines takes refused
  rw [run_of_prepare h, hprinter, hok, outcome, LinePrinter.finish, LinePrinter.lines,
    List.reverse_reverse]

end

/-- **A scan prints on its output what it prints on one that never fails, as far as that takes it.**

* What is printed are lines at the front of those;
* if the output refuses a line, the scan prints the lines before it and fails for that reason;
* if it takes all lines, the scan comes to the same end as on an output that never fails, save that
  it fails where it would have ended well and the output cannot be flushed. -/
theorem ScanTask.run_onto (t : ScanTask) (output : LineOutput) (files : Files)
    (environment : List (String × String)) (i : Invocation) :
    let session := openSession files environment i id
    let sound := t.run .sound session
    let actual := t.run output session
    actual.output <+: sound.output ∧
      (∀ front line later reason, sound.output = front ++ line :: later →
        output.Takes [] front → output.write front.reverse line = .error reason →
        actual = .failed t.title front (.output (.notWritten reason))) ∧
      (output.Takes [] sound.output →
        (∀ reason, sound.code = 0 → output.flush sound.output.reverse = .error reason →
          actual = .failed t.title sound.output (.output (.notFlushed reason))) ∧
        (sound.code ≠ 0 ∨ output.flush sound.output.reverse = .ok () → actual = sound)) := by
  intro session sound actual
  cases hp : t.prepare session with
  | error e =>
    have hactual : actual = .failed t.title [] e := run_of_prepare_error hp output
    have hsound : sound = .failed t.title [] e := run_of_prepare_error hp .sound
    rw [hactual, hsound]
    refine ⟨List.prefix_refl _, fun front line later reason hlines => ?_,
      fun _ => ⟨fun reason hcode => ?_, fun _ => rfl⟩⟩
    · simp [Outcome.failed] at hlines
    · simp [Outcome.failed] at hcode
  | ok prepared =>
    obtain ⟨opened, request⟩ := prepared
    have houtput : sound.output = opened.lines request t.limit := output_run_sound hp
    rw [houtput]
    refine ⟨?_, fun front line later reason lines => run_of_refused hp lines, fun takes => ?_⟩
    · rcases output.takes_or_refuses (opened.lines request t.limit) [] with
        takes | ⟨front, line, later, reason, lines, takes, refused⟩
      · rw [show actual = _ from run_of_takes hp takes, output_outcome, LinePrinter.lines,
          List.reverse_reverse]
      · rw [List.append_nil] at refused
        rw [show actual = _ from run_of_refused hp lines takes refused, lines]
        exact List.prefix_append _ _
    · rw [show actual = _ from run_of_takes hp takes,
        show sound = _ from run_of_takes hp (LineOutput.takes_sound [] _)]
      cases (opened.scan request (.onto .sound t.limit)).1 with
      | error e =>
        refine ⟨fun reason hcode => ?_, fun _ => rfl⟩
        simp [outcome, Outcome.failed] at hcode
      | ok summary =>
        constructor
        · intro reason _ hflush
          simp only [outcome, LinePrinter.finish, hflush, Except.mapError, LinePrinter.lines,
            List.reverse_reverse]
        · rintro (hcode | hflush)
          · exact absurd rfl hcode
          · simp only [outcome, LinePrinter.finish, hflush, LinePrinter.lines]
            rfl

end CommandLine

end DocTables
