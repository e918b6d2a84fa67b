/-
# Scans

A scan reads the documents of a table and offers the value of every column to a sink.  In a table
with a pattern, a column of the name of a placeholder takes what the placeholder stands for in the
name of the collection; any other column takes the field of its name, or null.  Names are compared
without regard to ASCII case unless that is turned off.  Values are coerced to the kinds of their
columns.

Before each document the sink is asked whether to go on.  The cursor is closed in the end, whatever
happened.
-/
import DocTables.Catalog
import DocTables.Coercion
import DocTables.Scan.Sink

namespace DocTables

/-- Why a scan failed. -/
inductive ScanError where
  /-- The sink failed on a field. -/
  | field (name reason : String)
  | cursor (cause : CursorError)
  | catalog (cause : CatalogError)
deriving Repr, DecidableEq

/-- The wording of an error. -/
def ScanError.message : ScanError → String
  | .field name reason => "Error while processing field " ++ name ++ ": " ++ reason
  | .cursor cause => cause.message
  | .catalog cause => cause.message

/-- How many documents have been read, and how many rows accepted. -/
structure ScanSummary where
  documents : Nat
  rows : Nat
deriving Repr, DecidableEq

namespace ScanSummary

/-- Nothing read. -/
def empty : ScanSummary := ⟨0, 0⟩

instance : Inhabited ScanSummary := ⟨empty⟩

/-- A summary as JSON. -/
def toJson (s : ScanSummary) : Json :=
  .object [("num_rows", .number (.integer s.documents)),
    ("num_result_rows", .number (.integer s.rows))]

/-- The summary that JSON text describes. -/
def parse? (text : String) : Option ScanSummary := do
  match ← (← Json.Draft.parse? text).fields? ["num_rows", "num_result_rows"] with
  | [some documents, some rows] => return ⟨← documents.size?, ← rows.size?⟩
  | _ => none

end ScanSummary

/-- What is to be scanned. -/
structure ScanRequest where
  database : String
  table : String
  schema : Schema
  /-- The values that a document has to have. -/
  filter : Document

namespace ScanRequest

/-- The table that is read: the one that the schema was made for, if it says so. -/
def source (r : ScanRequest) : String := r.schema.sourceTable?.getD r.table

/-- The query on the collections; `whole` asks for whole documents. -/
def query (r : ScanRequest) (whole : Bool) : Query where
  filter := if r.filter.isEmpty then none else some r.filter
  projection := if whole then none else some r.schema.projection
  limit := none

end ScanRequest

/-- What a scan works with. -/
structure Scanner where
  store : Store
  patterns : PatternSet
  /-- Whether names are compared without regard to ASCII case. -/
  ignoreCase : Bool

namespace Scanner

/-- The scanner of a store with a configuration. -/
def ofConfig (store : Store) (config : Config) : Scanner :=
  ⟨store, .ofText config.globPattern, !config.disableProjectionAndCasing⟩

/-! ## 1. Values -/

/-- What the placeholders stand for in a collection of a table. -/
def captures (s : Scanner) (table : String) (collection : Option String) : Dictionary :=
  match collection with
  | some name => if s.patterns.isMultiTenant table then s.patterns.captures name else .empty
  | none => .empty

/-- What stands for a column among captured texts. -/
def captured? (s : Scanner) (captures : Dictionary) (column : String) : Option String :=
  if s.ignoreCase then
    (captures.entries.find? fun e => Text.eqIgnoreCase e.1 column).map Prod.snd
  else captures.get? column

/-- The field of a document for a column. -/
def field? (s : Scanner) (d : Document) (column : String) : Option Value :=
  if s.ignoreCase then d.getIgnoreCase? column else d.get? column

/-- The value of a column. -/
def value (s : Scanner) (captures : Dictionary) (d : Document) (column : Column) : Value :=
  let raw := match s.captured? captures column.name with
    | some text => .string text
    | none => (s.field? d column.name).getD .null
  coerce column.kind raw

/-! ## 2. Rows -/

variable {σ : Type}

/-- Offer a value to a sink. -/
def offer (sink : Sink σ) (state : σ) (row : Nat) (column : Column) (value : Value) :
    Except ScanError Bool × σ :=
  let (answer, state) :=
    if column.kind.isComplex then sink.offerComplex state column.name row value
    else sink.offer state column.name row value
  (answer.mapError (.field column.name), state)

/-- Offer the values of columns until one is refused. -/
def offerAll (sink : Sink σ) (row : Nat) (value : Column → Value) (state : σ) :
    List Column → Except ScanError Bool × σ
  | [] => (.ok true, state)
  | column :: rest =>
    match offer sink state row column (value column) with
    | (.error e, state) => (.error e, state)
    | (.ok false, state) => (.ok false, state)
    | (.ok true, state) => offerAll sink row value state rest

/-- Offer a row and tell the sink where it ends; how the counts go on. -/
def offerRow (sink : Sink σ) (summary : ScanSummary) (value : Column → Value) (state : σ)
    (columns : List Column) : Except ScanError ScanSummary × σ :=
  match offerAll sink summary.rows value state columns with
  | (.error e, state) => (.error e, state)
  | (.ok accepted, state) =>
    (.ok ⟨summary.documents + 1, if accepted then summary.rows + 1 else summary.rows⟩,
      sink.endRow state summary.rows accepted)

/-- Read documents and offer their rows until the sink or the chain comes to its end. -/
def readRows (s : Scanner) (sink : Sink σ) (table : String) (columns : List Column)
    (summary : ScanSummary) (chain : Chain) (state : σ) :
    Except ScanError ScanSummary × Chain × σ :=
  match sink.isLive state with
  | (false, state) => (.ok summary, chain, state)
  | (true, state) =>
    match _h : chain.hasNext with
    | (.error e, chain) => (.error (.cursor e), chain, state)
    | (.ok false, chain) => (.ok summary, chain, state)
    | (.ok true, fetched) =>
      let captures := s.captures table fetched.collection?
      match fetched.take.1 with
      | none => (.error (.cursor .exhausted), fetched.take.2, state)
      | some d =>
        match offerRow sink summary (s.value captures d) state columns with
        | (.error e, state) => (.error e, fetched.take.2, state)
        | (.ok summary, state) => s.readRows sink table columns summary fetched.take.2 state
termination_by (chain.remaining.1, chain.remaining.2)
decreasing_by exact (Chain.remaining_next _h).lex

/-! ## 3. Scans -/

/-- Scan a table into a sink: the counts, the state of the sink, and the cursors opened and closed.
-/
def run (s : Scanner) (request : ScanRequest) (sink : Sink σ) (state : σ) (ledger : Ledger) :
    Except ScanError ScanSummary × σ × Ledger :=
  match s.patterns.resolve s.store request.database request.source with
  | .error e => (.error (.catalog e), state, ledger)
  | .ok collections =>
    let query := request.query (!s.ignoreCase)
    let chain := Chain.ofStore s.store request.database query collections ledger
    let (scanned, chain, state) :=
      s.readRows sink request.source request.schema.columns .empty chain state
    let (closed, chain) := chain.close
    (do let summary ← scanned; closed.mapError .cursor; return summary, state, chain.ledger)

end Scanner

end DocTables
