/-
# The command line

A command works on the files of a store of JSON lines: it reads the configuration, opens the store,
and lists databases or tables, shows what is known about a table, or prints its rows.  What it
prints and how it ends depends on its arguments, the environment and the files alone, as what it
prints on takes every line.  `ScanTask.run` goes further and says what a scan does where its output
fails.
-/
import DocTables.CommandLine.Arguments
import DocTables.CommandLine.Error
import DocTables.Connections
import DocTables.Store.JsonLines

namespace DocTables

/-- What a command leaves behind. -/
structure Outcome where
  /-- The exit code. -/
  code : Nat
  /-- The lines that it prints. -/
  output : List String
  /-- The lines about what went wrong and what has been done. -/
  notes : List String
deriving Repr, DecidableEq

namespace Outcome

/-- A command that has done its task. -/
def done (output notes : List String) : Outcome := ⟨0, output, notes⟩

/-- A command that has failed at its task, after it had printed some lines. -/
def failed (task : String) (output : List String) (e : CommandError) : Outcome :=
  ⟨1, output, [e.report task]⟩

end Outcome

namespace CommandLine

/-- What a command works with. -/
structure Session where
  config : Config
  store : Store

/-- The connection of an invocation. -/
def connection (i : Invocation) (config : Config) : Except CommandError String :=
  match i.root <|> config.connection? i.catalog with
  | some connection => .ok connection
  | none => .error (.noConnection i.catalog)

/-- Open the store of an invocation with its configuration, which `adjust` may change. -/
def openSession (files : Files) (environment : List (String × String)) (i : Invocation)
    (adjust : Config → Config) : Except CommandError Session := do
  let config ← (Config.load files environment i.configFolder).mapError .config
  let config := adjust config
  let (reply, _) := Connections.empty.request (fun _ => true) (JsonLinesStore.connect files)
    (← connection i config)
  let store ← reply.result.mapError .store
  return ⟨config, store.toStore⟩

/-- The catalog of a session. -/
def Session.catalog (s : Session) : Catalog := .ofConfig s.store s.config

/-- The values that JSON text asks for. -/
def parseFilter (text : String) : Except CommandError Document :=
  match Json.parse? text with
  | none => .error (.invalidFilter malformedJson)
  | some json => (Document.ofJson json).mapError .invalidFilter

/-- What a scan has to be told. -/
structure ScanTask where
  database : String
  table : String
  limit : Option Nat
  filter : Option String

/-- The session of a scan, the schema of its table and its filter. -/
def ScanTask.prepare (t : ScanTask) (session : Except CommandError Session) :
    Except CommandError (Session × ScanRequest) := do
  if t.limit == some 0 then throw .limitNotPositive
  let filter ← match t.filter with
    | some text => parseFilter text
    | none => pure .empty
  let session ← session
  let (table, _) := session.catalog.table .empty t.database t.table
  let table ← table.mapError .catalog
  return (session, ⟨t.database, t.table, table.schema, filter⟩)

/-- The line that a scan ends with. -/
def summaryLine (s : ScanSummary) : String :=
  Nat.repr s.documents ++ " document(s) read, " ++ Nat.repr s.rows ++ " row(s) written"

/-- Print the rows of a table on an output. -/
def ScanTask.run (t : ScanTask) (output : LineOutput) (session : Except CommandError Session) :
    Outcome :=
  let task := "Failed to scan " ++ t.database ++ "." ++ t.table
  match t.prepare session with
  | .error e => .failed task [] e
  | .ok (session, request) =>
    let (scanned, printer, _) := (Scanner.ofConfig session.store session.config).run request
      LinePrinter.sink (.onto output t.limit) .empty
    match scanned with
    | .error e => .failed task printer.lines (.scan e)
    | .ok summary =>
      match printer.finish with
      | .error e => .failed task printer.lines (.output e)
      | .ok () => .done printer.lines [summaryLine summary]

/-- Print lines, or report why there are none. -/
def report (task : String) (lines : Except CommandError (List String)) : Outcome :=
  match lines with
  | .ok lines => .done lines []
  | .error e => .failed task [] e

/-- Carry out an invocation. -/
def perform (files : Files) (environment : List (String × String)) (i : Invocation) : Outcome :=
  let session := openSession files environment i
  match i.command with
  | .schemas =>
    report "Failed to list schemas" do
      (← session id).catalog.databases.mapError .catalog
  | .tables database =>
    report ("Failed to list tables of " ++ database) do
      ((← session id).catalog.tables database).mapError .catalog
  | .infer database name sampleSize =>
    let adjust (c : Config) : Config := { c with sampleSize := sampleSize.getD c.sampleSize }
    report ("Failed to infer schema of " ++ database ++ "." ++ name) do
      let (table, _) := (← session adjust).catalog.table .empty database name
      return [(← table.mapError .catalog).toJson.pretty]
  | .scan database table limit filter =>
    ScanTask.run ⟨database, table, limit, filter⟩ .sound (session id)

/-- How the program is used. -/
def usage : List String :=
  ["Usage: [OPTIONS] <COMMAND>",
   "",
   "Commands:",
   "  schemas                 List the databases",
   "  tables <SCHEMA>         List the tables of a database",
   "  infer <SCHEMA> <TABLE>  Show the schema of a table",
   "  scan <SCHEMA> <TABLE>   Print the rows of a table as lines of JSON",
   "",
   "Options:",
   "      --config-dir <DIR>  The folder with the configuration file",
   "      --root <ROOT>       The folder of the store",
   "      --catalog <NAME>    The catalog whose connection is used",
   "  -v, --verbose           Say more",
   "  -s, --sample-size <N>   infer: the number of documents in the sample",
   "  -l, --limit <N>         scan: the number of rows after which to stop",
   "  -f, --filter <JSON>     scan: the values that a document has to have",
   "  -h, --help              Print this help",
   "  -V, --version           Print the version"]

/-- The version of the program. -/
def versionLine : String := "0.3.0"

/-- Run the program on arguments. -/
def run (files : Files) (environment : List (String × String)) (arguments : List String) :
    Outcome :=
  match Invocation.ofArguments arguments with
  | .ok i => perform files environment i
  | .error .usage => ⟨2, [], usage⟩
  | .error .help => .done usage []
  | .error .version => .done [versionLine] []

end CommandLine

end DocTables
