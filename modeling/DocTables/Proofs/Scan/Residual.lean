/-
# Rows filtered in the sink

A row buffer with a filter refuses a row at the first column that does not pass, in the middle of
the row; the scan then leaves the rest of the row out and uses its number again.  What comes of it
is what filtering the rows afterwards comes to: the scan into the buffer with the filter does what
the scan into the one without does, and keeps those of its rows that have the value
(`Scanner.readRows_keeping`).

Every row is made of the columns of one document (`Scanner.readRows_rows`), since the current row is
emptied whenever a row ends; so nothing of a refused row is found in a later one.
`Scanner.run_filtered` puts this together.
-/
import DocTables.Proofs.Fields
import DocTables.Proofs.Scan.Release

namespace DocTables

/-! ## 1. Rows -/

namespace RowBuffer

/-- The row of a document: the columns in order, with their values. -/
def rowOf (columns : List Column) (value : Column → Value) : Document :=
  ⟨columns.map fun column => (column.name, value column)⟩

/-- Whether a row passes a filter: if it has the field, it has the value there. -/
def passes (filter : Option (String × Value)) (row : Document) : Bool :=
  match filter with
  | some (field, x) => (row.get? field).all (· == x)
  | none => true

/-- One more row. -/
def push (b : RowBuffer) (row : Document) : RowBuffer := { b with rows := b.rows ++ [row] }

/-- The buffer with a filter that keeps what passes of the rows. -/
def keeping (b : RowBuffer) (field : String) (x : Value) : RowBuffer :=
  { b with rows := b.rows.filter (passes (some (field, x))), filter := some (field, x) }

theorem keys_rowOf (columns : List Column) (value : Column → Value) :
    (rowOf columns value).keys = columns.map (·.name) := List.map_map

/-- All columns pass the filter exactly if the row does. -/
theorem all_matches?_eq {columns : List Column} (distinct : (columns.map (·.name)).Nodup)
    (b : RowBuffer) (value : Column → Value) :
    columns.all (fun column => b.matches? column.name (value column)) =
      passes b.filter (rowOf columns value) := by
  obtain ⟨rows, current, filter⟩ := b
  rcases filter with _ | ⟨field, x⟩
  · simp [matches?, passes]
  · refine Bool.eq_iff_iff.mpr ?_
    simp only [matches?, passes, List.all_eq_true, Option.all_eq_true, Bool.or_eq_true]
    constructor
    · intro h v hv
      obtain ⟨column, hcolumn, hentry⟩ := List.mem_map.mp (Fields.mem_entries_of_get? hv)
      obtain ⟨rfl, rfl⟩ := Prod.mk.inj hentry
      exact (h column hcolumn).resolve_left (by simp)
    · intro h column hcolumn
      by_cases hname : field = column.name
      · -- The value of the column is the one that stands under its name.
        have hentry : (column.name, value column) ∈ (rowOf columns value).entries :=
          List.mem_map_of_mem hcolumn
        have hrow : (rowOf columns value).Distinct := by
          rwa [Fields.Distinct, keys_rowOf]
        right
        exact h _ (hname ▸ hrow.get?_eq_some hentry)
      · left
        simpa using hname

/-- What passes of rows that have the field, and of rows that do not. -/
theorem filter_passes (columns : List Column) (values : List (Column → Value)) (field : String)
    (x : Value) :
    (values.map (rowOf columns)).filter (passes (some (field, x))) =
      if field ∈ columns.map (·.name) then
        (values.map (rowOf columns)).filter fun row => (row.get? field).any (· == x)
      else values.map (rowOf columns) := by
  by_cases hfield : field ∈ columns.map (·.name)
  · rw [if_pos hfield]
    refine List.filter_congr fun row hrow => ?_
    obtain ⟨value, -, rfl⟩ := List.mem_map.mp hrow
    obtain ⟨v, hv⟩ := Option.isSome_iff_exists.mp <|
      Fields.get?_isSome_iff.mpr (keys_rowOf columns value ▸ hfield)
    simp [passes, hv]
  · rw [if_neg hfield, List.filter_eq_self]
    intro row hrow
    obtain ⟨value, -, rfl⟩ := List.mem_map.mp hrow
    have hnone := Fields.get?_eq_none_iff.mpr (keys_rowOf columns value ▸ hfield)
    simp [passes, hnone]

/-! ## 2. One row -/

theorem offer_sink (b : RowBuffer) (row : Nat) (column : Column) (v : Value) :
    Scanner.offer sink b row column v =
      (.ok (b.matches? column.name v), { b with current := b.current.insert column.name v }) := by
  unfold Scanner.offer
  by_cases hc : column.kind.isComplex = true
  · rw [if_pos hc]
    rfl
  · rw [if_neg hc]
    rfl

/-- The values are put into the current row, all of them unless one does not pass. -/
theorem offerAll_sink (row : Nat) (value : Column → Value) : ∀ (columns : List Column)
    (b : RowBuffer), ∃ current,
      Scanner.offerAll sink row value b columns =
        (.ok (columns.all fun column => b.matches? column.name (value column)),
          { b with current := current }) ∧
      ((columns.all fun column => b.matches? column.name (value column)) = true →
        current = columns.foldl (fun d column => d.insert column.name (value column)) b.current)
  | [], b => ⟨b.current, rfl, fun _ => rfl⟩
  | column :: rest, b => by
    obtain ⟨current, hrest, hall⟩ := offerAll_sink row value rest
      { b with current := b.current.insert column.name (value column) }
    rw [Scanner.offerAll, offer_sink]
    cases hmatch : b.matches? column.name (value column) with
    | false =>
      refine ⟨b.current.insert column.name (value column), ?_, ?_⟩
      · simp [hmatch]
      · simp [hmatch]
    | true =>
      refine ⟨current, ?_, fun h => ?_⟩
      · rw [List.all_cons, hmatch, Bool.true_and]
        exact hrest
      · rw [List.all_cons, hmatch, Bool.true_and] at h
        exact hall h

/-- **One row.**  It is kept if it passes the filter; nothing is left of it if it does not. -/
theorem offerRow_sink {columns : List Column} (distinct : (columns.map (·.name)).Nodup)
    {b : RowBuffer} (fresh : b.current = .empty) (summary : ScanSummary) (value : Column → Value) :
    Scanner.offerRow sink summary value b columns =
      (.ok (summary.next (passes b.filter (rowOf columns value))),
        if passes b.filter (rowOf columns value) then b.push (rowOf columns value) else b) := by
  obtain ⟨current, hall, hcurrent⟩ := offerAll_sink summary.rows value columns b
  rw [all_matches?_eq distinct] at hall hcurrent
  rw [fresh, Fields.foldl_insert_map distinct] at hcurrent
  rw [Scanner.offerRow, hall]
  cases hpasses : passes b.filter (rowOf columns value) with
  | false =>
    obtain ⟨rows, _, filter⟩ := b
    obtain rfl := fresh
    rfl
  | true =>
    obtain rfl := hcurrent hpasses
    obtain ⟨rows, _, filter⟩ := b
    obtain rfl := fresh
    rfl

/-- Without a filter every row is kept. -/
theorem offerRow_unfiltered {columns : List Column} (distinct : (columns.map (·.name)).Nodup)
    {b : RowBuffer} (fresh : b.current = .empty) (unfiltered : b.filter = none)
    (summary : ScanSummary) (value : Column → Value) :
    Scanner.offerRow sink summary value b columns =
      (.ok (summary.next true), b.push (rowOf columns value)) := by
  rw [offerRow_sink distinct fresh, unfiltered]
  rfl

theorem push_keeping (b : RowBuffer) (row : Document) (field : String) (x : Value) :
    (b.push row).keeping field x =
      if passes (some (field, x)) row then (b.keeping field x).push row else b.keeping field x := by
  cases hpasses : passes (some (field, x)) row <;> simp [keeping, push, hpasses]

end RowBuffer

namespace Scanner

open RowBuffer

variable {columns : List Column}

/-! ## 3. Runs side by side -/

/-- **The loop of a scan with a filter** does what the loop without does, and keeps what passes of
its rows. -/
theorem readRows_keeping (s : Scanner) (table : String)
    (distinct : (columns.map (·.name)).Nodup) (field : String) (x : Value) (summary : ScanSummary)
    (chain : Chain) (b : RowBuffer) :
    b.current = .empty → b.filter = none →
      let full := s.readRows sink table columns summary chain b
      s.readRows sink table columns ⟨summary.documents, (b.keeping field x).rows.length⟩ chain
          (b.keeping field x) =
        (full.1.map fun total => ⟨total.documents, (full.2.2.keeping field x).rows.length⟩,
          full.2.1, full.2.2.keeping field x) := by
  have hlive (b : RowBuffer) : sink.isLive b = (true, b) := rfl
  fun_induction readRows s sink table columns summary chain b with
  | case1 summary chain b b' hl => cases hl
  | case2 summary chain b b' hl e chain' hn | case3 summary chain b b' hl chain' hn =>
    intro _ _
    obtain rfl : b = b' := congrArg Prod.snd hl
    rw [readRows_eq, hlive, hn]
    rfl
  | case4 summary chain b b' hl fetched hn hd =>
    intro _ _
    obtain rfl : b = b' := congrArg Prod.snd hl
    rw [readRows_eq, hlive, hn]
    simp only [hd]
    rfl
  | case5 summary chain b b' hl fetched hn captures d hd e b'' hr =>
    intro fresh unfiltered
    obtain rfl : b = b' := congrArg Prod.snd hl
    rw [offerRow_unfiltered distinct fresh unfiltered] at hr
    cases hr
  | case6 summary chain b b' hl fetched hn captures d hd summary' b'' hr ih =>
    intro fresh unfiltered
    obtain rfl : b = b' := congrArg Prod.snd hl
    rw [offerRow_unfiltered distinct fresh unfiltered] at hr
    obtain ⟨hsummary, rfl⟩ := Prod.mk.inj hr
    obtain rfl := Except.ok.inj hsummary
    have hrow := offerRow_sink distinct (b := b.keeping field x) fresh
      ⟨summary.documents, (b.keeping field x).rows.length⟩ (s.value captures d)
    have hrest := ih fresh unfiltered
    rw [push_keeping] at hrest
    rw [readRows_eq s sink table columns _ chain, hlive, hn]
    simp only [hd, captures] at hrow hrest ⊢
    rw [hrow, ← hrest]
    -- The row is gone with the filter, and its number is used again, if it does not pass.
    rw [show (b.keeping field x).filter = some (field, x) from rfl]
    cases passes (some (field, x))
        (rowOf columns (s.value (s.captures table fetched.collection?) d)) with
    | false => rfl
    | true => simp [ScanSummary.next, push]

/-! ## 4. The rows of a scan -/

/-- **The loop of a scan without a filter** makes a row of every document that it reads, and if it
comes to a good end, these are all documents of its chain. -/
theorem readRows_rows (s : Scanner) (table : String)
    (distinct : (columns.map (·.name)).Nodup) (summary : ScanSummary) (chain : Chain)
    (b : RowBuffer) :
    b.current = .empty → b.filter = none →
      let scan := s.readRows sink table columns summary chain b
      ∃ read left : List Found, chain.findings = read ++ left ∧
        scan.2.2 = { b with
          rows := b.rows ++ (read.map (s.cell table)).map (rowOf columns) } ∧
        ∀ total, scan.1 = .ok total →
          left = [] ∧ total = ⟨summary.documents + read.length, summary.rows + read.length⟩ := by
  fun_induction readRows s sink table columns summary chain b with
  | case1 summary chain b b' hl => cases hl
  | case2 summary chain b b' hl e chain' hn =>
    intro _ _
    obtain rfl : b = b' := congrArg Prod.snd hl
    exact ⟨[], chain.findings, rfl, by simp, by simp⟩
  | case3 summary chain b b' hl chain' hn =>
    intro _ _
    obtain rfl : b = b' := congrArg Prod.snd hl
    refine ⟨[], chain.findings, rfl, by simp, fun total h => ⟨Chain.hasNext_false hn, ?_⟩⟩
    exact (Except.ok.inj h).symm
  | case4 summary chain b b' hl fetched hn hd =>
    obtain ⟨source, -, htake, -⟩ := Chain.hasNext_true hn
    exact absurd (hd.symm.trans htake) (by simp)
  | case5 summary chain b b' hl fetched hn captures d hd e b'' hr =>
    intro fresh unfiltered
    obtain rfl : b = b' := congrArg Prod.snd hl
    rw [offerRow_unfiltered distinct fresh unfiltered] at hr
    cases hr
  | case6 summary chain b b' hl fetched hn captures d hd summary' b'' hr ih =>
    intro fresh unfiltered
    obtain rfl : b = b' := congrArg Prod.snd hl
    rw [offerRow_unfiltered distinct fresh unfiltered] at hr
    obtain ⟨hsummary, rfl⟩ := Prod.mk.inj hr
    obtain rfl := Except.ok.inj hsummary
    obtain ⟨source, hcollection, htake, hfindings, -⟩ := Chain.hasNext_true hn
    obtain rfl : d = source.document := Option.some.inj (hd.symm.trans htake)
    obtain ⟨read, left, hrest, hrows, hall⟩ := ih fresh unfiltered
    refine ⟨source :: read, left, by rw [hfindings, hrest, List.cons_append], ?_, fun total h => ?_⟩
    · rw [hrows, List.map_cons, ← s.value_eq_cell table source hcollection]
      simp [push, captures]
    · obtain ⟨hleft, rfl⟩ := hall total h
      refine ⟨hleft, ?_⟩
      simp only [ScanSummary.next, if_true, List.length_cons, ScanSummary.mk.injEq]
      omega

/-! ## 5. Scans -/

/-- The loop of a scan into a row buffer. -/
def collecting (s : Scanner) (request : ScanRequest) (collections : List String) (ledger : Ledger)
    (b : RowBuffer) : Except ScanError ScanSummary × Chain × RowBuffer :=
  s.readRows sink request.source request.schema.columns .empty
    (.start (s.rowQuery request) collections ledger) b

theorem run_collecting {s : Scanner} {request : ScanRequest} {collections : List String}
    (h : s.patterns.resolve s.store request.database request.source = .ok collections)
    (ledger : Ledger) (b : RowBuffer) :
    let scan := s.collecting request collections ledger b
    s.run request sink b ledger =
      (scan.1.bind fun summary => (scan.2.1.close.1.mapError .cursor).bind fun _ => .ok summary,
        scan.2.2, scan.2.1.close.2.ledger) :=
  run_of_collections h sink b ledger

theorem collecting_filtered (s : Scanner) {request : ScanRequest}
    (distinct : request.schema.Distinct) (collections : List String) (ledger : Ledger)
    (field : String) (x : Value) :
    let full := s.collecting request collections ledger .empty
    s.collecting request collections ledger (.filtered field x) =
      (full.1.map fun total => ⟨total.documents, (full.2.2.keeping field x).rows.length⟩,
        full.2.1, full.2.2.keeping field x) :=
  s.readRows_keeping request.source distinct field x .empty
    (.start (s.rowQuery request) collections ledger) .empty rfl rfl

theorem collecting_rows (s : Scanner) {request : ScanRequest}
    (distinct : request.schema.Distinct) (collections : List String) (ledger : Ledger) :
    let scan := s.collecting request collections ledger .empty
    ∃ read left, s.found request collections = read ++ left ∧
      scan.2.2 = { RowBuffer.empty with
        rows := (read.map (s.cell request.source)).map (rowOf request.schema.columns) } ∧
      ∀ total, scan.1 = .ok total → left = [] ∧ total = ⟨read.length, read.length⟩ := by
  obtain ⟨read, left, hfound, hrows, hall⟩ := s.readRows_rows request.source distinct .empty
    (.start (s.rowQuery request) collections ledger) .empty rfl rfl
  refine ⟨read, left, hfound, hrows, fun total h => ?_⟩
  simpa [ScanSummary.empty] using hall total h

/-- **Filtering in the sink is filtering afterwards.**  The scan into a buffer with a filter and the
one into a buffer without come to the same end with as many documents read, and the rows of the one
are those rows of the other that have the value; the count of the rows is their number.  Where no
column has the name of the field, that is all rows.  The rows of the scan without a filter are those
of the documents that the store finds, each of the columns of one document; if it comes to a good
end, of all of them. -/
theorem run_filtered (s : Scanner) (request : ScanRequest) (distinct : request.schema.Distinct)
    (field : String) (x : Value) (ledger : Ledger) :
    let full := s.run request sink .empty ledger
    let kept := s.run request sink (.filtered field x) ledger
    kept.1 = full.1.map (fun total => ⟨total.documents, kept.2.1.rows.length⟩) ∧
      kept.2.1.rows =
        (if field ∈ request.schema.names then
          full.2.1.rows.filter fun row => (row.get? field).any (· == x)
        else full.2.1.rows) ∧
      kept.2.1.current = .empty ∧ kept.2.2 = full.2.2 ∧
      ∀ collections,
        s.patterns.resolve s.store request.database request.source = .ok collections →
        ∃ read left, s.found request collections = read ++ left ∧
          full.2.1.rows =
            (read.map (s.cell request.source)).map (rowOf request.schema.columns) ∧
          ∀ total, full.1 = .ok total → left = [] ∧ total = ⟨read.length, read.length⟩ := by
  intro full kept
  cases h : s.patterns.resolve s.store request.database request.source with
  | error e =>
    have hfull : full = (.error (.catalog e), .empty, ledger) := run_of_resolve_error h ..
    have hkept : kept = (.error (.catalog e), .filtered field x, ledger) :=
      run_of_resolve_error h ..
    rw [hfull, hkept]
    exact ⟨rfl, (ite_self _).symm, rfl, rfl, fun _ hcollections => by cases hcollections⟩
  | ok collections =>
    have hfull : full = _ := run_collecting h ledger .empty
    have hkept : kept = _ := run_collecting h ledger (.filtered field x)
    obtain ⟨read, left, hfound, hrows, hall⟩ := s.collecting_rows distinct collections ledger
    rw [s.collecting_filtered distinct] at hkept
    generalize s.collecting request collections ledger .empty = scan at hfull hkept hrows hall
    obtain ⟨result, chain, b⟩ := scan
    obtain rfl : b = _ := hrows
    rw [hfull, hkept]
    refine ⟨?_, filter_passes .., rfl, rfl, ?_⟩
    · cases result <;> cases chain.close.1 <;> rfl
    · intro _ hcollections
      obtain rfl := Except.ok.inj hcollections
      refine ⟨read, left, hfound, rfl, fun total hok => hall total ?_⟩
      -- A good end is one of the loop, after which closing has not failed.
      cases result with
      | error e => cases hok
      | ok summary =>
        cases hclose : chain.close.1 with
        | error e => simp [hclose, Except.bind, Except.mapError] at hok
        | ok _ => simpa [hclose, Except.bind, Except.mapError] using hok

/-- Three documents; the second one has the wrong `v`, and the third has no `u`. -/
def halfRowStore : MemoryStore :=
  MemoryStore.empty.insertMany "db" "a" [⟨[("u", .int32 1), ("v", .int32 1)]⟩,
    ⟨[("u", .int32 2), ("v", .int32 2)]⟩, ⟨[("v", .int32 1)]⟩]

/-- The row that is refused for its `v` leaves no `u` to the next. -/
theorem run_filtered_halfRow :
    let request : ScanRequest :=
      ⟨"db", "a", .ofColumns [.ofKind "u" .int32, .ofKind "v" .int32], .empty⟩
    let s : Scanner := ⟨halfRowStore.toStore, ⟨[]⟩, true⟩
    let full := s.run request sink .empty .empty
    let kept := s.run request sink (.filtered "v" (.int32 1)) .empty
    request.schema.Distinct ∧ full.1 = .ok ⟨3, 3⟩ ∧ kept.1 = .ok ⟨3, 2⟩ ∧
      kept.2.1.rows =
        [⟨[("u", .int32 1), ("v", .int32 1)]⟩, ⟨[("u", .null), ("v", .int32 1)]⟩] := by
  intro request s full kept
  have distinct : request.schema.Distinct := show ["u", "v"].Nodup by decide
  have hfull : (s.run request sink .empty .empty).1 = .ok ⟨3, 3⟩ := by cbv
  have hall : (s.run request sink .empty .empty).2.1.rows =
      [⟨[("u", .int32 1), ("v", .int32 1)]⟩, ⟨[("u", .int32 2), ("v", .int32 2)]⟩,
        ⟨[("u", .null), ("v", .int32 1)]⟩] := by cbv
  obtain ⟨hresult, hrows, -⟩ := s.run_filtered request distinct "v" (.int32 1) .empty
  have hkept : kept.2.1.rows =
      [⟨[("u", .int32 1), ("v", .int32 1)]⟩, ⟨[("u", .null), ("v", .int32 1)]⟩] := by
    refine hrows.trans ?_
    rw [hall]
    rfl
  refine ⟨distinct, hfull, hresult.trans ?_, hkept⟩
  rw [hfull, hkept]
  rfl

end Scanner

end DocTables
