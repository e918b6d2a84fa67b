/-
# The own fields of a document

A scan with the schema that the catalog infers for the table, into a sink that accepts everything,
offers the fields of every document as its own (`scan_offers_own_fields`).  Only what a placeholder
has captured goes before a field, and only where the names are equal up to ASCII case; there it does
(`capture_replaces_field`).
-/
import Mathlib
import DocTables.Proofs.Catalog.Tables
import DocTables.Proofs.Scan.Accepting

namespace DocTables

variable {σ : Type}

/-! ## 1. Fields and captured texts -/

namespace Scanner

/-- What is captured for a column is a captured text of its name. -/
theorem mem_of_captured? {s : Scanner} {captures : Dictionary} {column text : String}
    (h : s.captured? captures column = some text) :
    ∃ e ∈ captures.entries, Text.eqIgnoreCase e.1 column = true ∧ e.2 = text := by
  unfold captured? at h
  by_cases hcase : s.ignoreCase = true
  · rw [if_pos hcase] at h
    obtain ⟨e, hfind, htext⟩ := Option.map_eq_some_iff.mp h
    have hname : Text.eqIgnoreCase e.1 column = true := by simpa using List.find?_some hfind
    exact ⟨e, List.mem_of_find?_eq_some hfind, hname, htext⟩
  · rw [if_neg hcase] at h
    obtain ⟨before, after, hsplit, -⟩ := List.lookup_eq_some_iff.mp h
    exact ⟨(column, text), by simp [hsplit], Text.eqIgnoreCase_self column, rfl⟩

/-- A field is offered unless something is captured for its column. -/
theorem cell_of_field (s : Scanner) (table : String) {source : Found} {column : Column} {v : Value}
    (h : source.document.get? column.name = some v) :
    let captured := s.captures table (some source.collection)
    s.cell table source column =
      coerce column.kind (((s.captured? captured column.name).map .string).getD v) := by
  intro captured
  unfold cell standing
  rw [captured?_captures, h]
  cases (if s.patterns.isMultiTenant table then _ else none : Option String) <;> rfl

end Scanner

/-! ## 2. Scans with an inferred schema -/

/-- The request for the rows of a table under the schema that is known of it. -/
def TableInfo.request (t : TableInfo) (filter : Document) : ScanRequest :=
  ⟨t.database, t.table, t.schema, filter⟩

/-- **The rows of a table have the fields of its documents.**  A scan with the schema that is
inferred for the table, into a sink that accepts everything, tells of every document.  For a column
that is the name of a field the row has the field, unless a text has been captured in the name of
the collection under this name, up to ASCII case; then it may have that text, but no other field. -/
theorem scan_offers_own_fields {c : Catalog} {opening : Ledger} {database table : String}
    {info : TableInfo} (known : (c.table opening database table).1 = .ok info)
    (inferred : info.source = .inferred) (filter : Document) {sink : Sink σ}
    (accepting : sink.Accepting) (state : σ) (ledger : Ledger)
    (read : ∀ cause : CursorError,
      ((c.scanner true).run (info.request filter) sink state ledger).1 ≠ .error (.cursor cause)) :
    ∃ collections, c.patterns.resolve c.store database table = .ok collections ∧
      ∀ sources, (c.scanner true).Gives (info.request filter) collections sources →
        ((c.scanner true).run (info.request filter) sink state ledger).1 =
          .ok ⟨sources.length, sources.length⟩ ∧
        (c.scanner true).calls (info.request filter) sink state ledger =
          rowsFrom ((c.scanner true).cell table) info.schema.columns 0 sources ∧
        ∀ source ∈ sources, ∀ column ∈ info.schema.columns, ∀ v : Value,
          source.document.get? column.name = some v →
          let captured := ((c.scanner true).captures table (some source.collection)).entries
          let offered := (c.scanner true).cell table source column
          ((∀ e ∈ captured, Text.eqIgnoreCase e.1 column.name = false) →
            offered = coerce column.kind v) ∧
          (offered = coerce column.kind v ∨
            ∃ e ∈ captured, Text.eqIgnoreCase e.1 column.name = true ∧
              offered = coerce column.kind (.string e.2)) := by
  obtain ⟨rfl, rfl, hsource, collections, hres⟩ := Catalog.table_inferred known inferred
  have hrequest : (info.request filter).source = info.table := by
    rw [ScanRequest.source, TableInfo.request, hsource, Option.getD_some]
  refine ⟨collections, hres, fun sources gives => ?_⟩
  obtain ⟨hresult, hcalls⟩ := Scanner.calls_of_accepting (by rw [hrequest]; exact hres) gives
    accepting read
  rw [hrequest] at hcalls
  refine ⟨hresult, hcalls, fun source _ column _ v hv => ?_⟩
  simp only
  rw [(c.scanner true).cell_of_field info.table hv]
  cases h : (c.scanner true).captured? ((c.scanner true).captures info.table source.collection)
    column.name with
  | none => exact ⟨fun _ => rfl, .inl rfl⟩
  | some text =>
    obtain ⟨e, he, hname, rfl⟩ := Scanner.mem_of_captured? h
    exact ⟨fun hno => absurd hname (by simp [hno e he]), .inr ⟨e, he, hname, rfl⟩⟩

/-! ## 3. A field and a placeholder of one name -/

/-- A text that is offered, and the field that it is offered for. -/
def SinkCall.text? : SinkCall → Option (String × String)
  | .offered _ field _ (.string text) _ => some (field, text)
  | _ => none

/-- A document with a field `region` in a collection that is named after a region. -/
def regionSource : Found := ⟨"t_eu", .ofList [("region", .string "north"), ("total", .int32 5)]⟩

/-- A store that holds this document. -/
def regionStore : MemoryStore :=
  MemoryStore.empty.insertMany "db" regionSource.collection [regionSource.document]

/-- The catalog of this store with a placeholder `Region`.  In the rest of the template case counts.
-/
def regionCatalog : Catalog where
  store := regionStore.toStore
  config := .default
  patterns := .ofText "(?-i)t_{{Region}}"
  supplemental _ _ := .ok none
  sampleSize := 10

/-- The scanner of this catalog. -/
def regionScanner : Scanner := regionCatalog.scanner true

/-- The table of the template. -/
def regionTable : String := "(?-i)t_Region"

theorem eq_ok_of_toOption {ε α : Type} {x : Except ε α} {a : α} (h : x.toOption = some a) :
    x = .ok a := by
  cases x with
  | error e => simp [Except.toOption] at h
  | ok b => rw [Option.some.inj h]

/-- What is inferred of the table and what is offered of it. -/
theorem regionTable_scanned :
    ∃ info : TableInfo, (regionCatalog.table .empty "db" regionTable).1 = .ok info ∧
      info.source = .inferred ∧ info.schema.kindOf? "region" = some .string ∧
      info.schema.names = ["region", "total", "Region"] ∧
      (regionScanner.run (info.request .empty) Sink.granting () .empty).1 = .ok ⟨1, 1⟩ ∧
      (regionScanner.calls (info.request .empty) Sink.granting () .empty).filterMap
        SinkCall.text? = [("region", "eu"), ("Region", "eu")] := by
  have h : (regionCatalog.table .empty "db" regionTable).1.toOption.any (fun info =>
      info.source = .inferred && (info.schema.kindOf? "region").any (· matches .string) &&
      info.schema.names = ["region", "total", "Region"] &&
      (regionScanner.run (info.request .empty) Sink.granting () .empty).1.toOption =
        some ⟨1, 1⟩ &&
      (regionScanner.calls (info.request .empty) Sink.granting () .empty).filterMap
        SinkCall.text? = [("region", "eu"), ("Region", "eu")]) = true := by cbv
  obtain ⟨info, hinfo, hobserved⟩ := (Option.any_eq_true _ _).mp h
  simp only [Bool.and_eq_true, decide_eq_true_eq] at hobserved
  obtain ⟨⟨⟨⟨hsource, hkind⟩, hnames⟩, hrun⟩, hcalls⟩ := hobserved
  obtain ⟨kind, hcolumn, hstring⟩ := (Option.any_eq_true _ _).mp hkind
  refine ⟨info, eq_ok_of_toOption hinfo, hsource, ?_, hnames, eq_ok_of_toOption hrun, hcalls⟩
  cases kind with
  | string => exact hcolumn
  | _ => simp at hstring

theorem regionTable_resolved :
    regionCatalog.patterns.resolve regionCatalog.store "db" regionTable = .ok ["t_eu"] := by cbv

theorem regionCatalog_gives {info : TableInfo} (h : info.database = "db") :
    regionScanner.Gives (info.request .empty) ["t_eu"] [regionSource] := by
  have hwanted :
      Scanner.wanted (info.request .empty) regionStore.held ["t_eu"] = [regionSource] := by
    simp only [Scanner.wanted, TableInfo.request, h]
    rfl
  rw [← hwanted]
  exact .held regionStore.serves

/-- **A captured text goes before a field.**  The field `region` of the document is a column of the
inferred schema and no placeholder of the template, but all that the row offers for it is the text
of the placeholder `Region`. -/
theorem capture_replaces_field :
    ∃ info : TableInfo, (regionCatalog.table .empty "db" regionTable).1 = .ok info ∧
      info.source = .inferred ∧ Sink.granting.Accepting ∧
      (∀ cause : CursorError,
        (regionScanner.run (info.request .empty) Sink.granting () .empty).1 ≠
          .error (.cursor cause)) ∧
      regionCatalog.patterns.resolve regionCatalog.store "db" regionTable = .ok ["t_eu"] ∧
      regionScanner.Gives (info.request .empty) ["t_eu"] [regionSource] ∧
      regionSource.document.get? "region" = some (.string "north") ∧
      info.schema.kindOf? "region" = some .string ∧
      "region" ∉ regionCatalog.patterns.placeholders regionTable ∧
      ∀ (complex : Bool) (row : Nat) (answer : Except String Bool),
        .offered complex "region" row (coerce .string (.string "north")) answer ∉
          regionScanner.calls (info.request .empty) Sink.granting () .empty := by
  obtain ⟨info, hinfo, hinferred, hkind, -, hrun, hcalls⟩ := regionTable_scanned
  have hplaceholders : regionCatalog.patterns.placeholders regionTable = ["Region"] := by cbv
  refine ⟨info, hinfo, hinferred, Sink.granting_accepting, fun cause => ?_, regionTable_resolved,
    regionCatalog_gives (Catalog.table_inferred hinfo hinferred).1, rfl, hkind, ?_, ?_⟩
  · simp [hrun]
  · rw [hplaceholders]
    decide
  · intro complex row answer hmem
    have htext : ("region", "north") ∈ [("region", "eu"), ("Region", "eu")] := by
      rw [← hcalls]
      exact List.mem_filterMap.mpr ⟨_, hmem, rfl⟩
    exact absurd htext (by decide)

/-- At this table the theorem says that the row has the number of the field `total`. -/
theorem scan_offers_own_fields_total :
    ∃ info : TableInfo, (regionCatalog.table .empty "db" regionTable).1 = .ok info ∧
      info.source = .inferred ∧ Sink.granting.Accepting ∧
      (∀ cause : CursorError,
        (regionScanner.run (info.request .empty) Sink.granting () .empty).1 ≠
          .error (.cursor cause)) ∧
      ∃ column ∈ info.schema.columns, column.name = "total" ∧
        regionScanner.calls (info.request .empty) Sink.granting () .empty =
          rowsFrom (regionScanner.cell regionTable) info.schema.columns 0 [regionSource] ∧
        regionScanner.cell regionTable regionSource column =
          coerce column.kind (.int32 5) := by
  obtain ⟨info, hinfo, hinferred, -, hnames, hrun, -⟩ := regionTable_scanned
  have hread (cause : CursorError) :
      (regionScanner.run (info.request .empty) Sink.granting () .empty).1 ≠
        .error (.cursor cause) := by simp [hrun]
  obtain ⟨collections, hres, hscan⟩ := scan_offers_own_fields hinfo hinferred .empty
    Sink.granting_accepting () .empty hread
  obtain rfl : ["t_eu"] = collections := Except.ok.inj (regionTable_resolved.symm.trans hres)
  obtain ⟨-, hcalls, hcells⟩ :=
    hscan _ (regionCatalog_gives (Catalog.table_inferred hinfo hinferred).1)
  obtain ⟨column, hmem, hname⟩ : ∃ column ∈ info.schema.columns, column.name = "total" := by
    have : "total" ∈ info.schema.names := by simp [hnames]
    simpa [Schema.names] using this
  have hcaptured :
      (regionScanner.captures regionTable (some "t_eu")).entries = [("Region", "eu")] := by
    cbv
  refine ⟨info, hinfo, hinferred, Sink.granting_accepting, hread, column, hmem, hname,
    hcalls, ?_⟩
  refine (hcells regionSource (List.mem_singleton_self _) column hmem (.int32 5) ?_).1 ?_
  · rw [hname]
    rfl
  · intro e he
    obtain rfl : e = ("Region", "eu") := List.mem_singleton.mp (hcaptured ▸ he)
    rw [hname]
    decide

end DocTables
