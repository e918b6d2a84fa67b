/-
# Tables under construction

The entries of a TOML document come one by one, under paths of keys, and sections open tables under
paths.  A table may get entries from several places: it remembers how it came to be, which decides
what may still be done to it.  A key stands for one value; a table of a section or of braces is
complete where it ends; a table that a path passed through can still be opened as a section.
-/
import DocTables.Toml.Basic

namespace DocTables.Toml

/-- How a table came to be. -/
inductive Origin where
  /-- A section has it for its name. -/
  | header
  /-- A longer name of a section passes through it. -/
  | passed
  /-- A path in front of a value passes through it. -/
  | dotted
deriving Repr, DecidableEq

/-- What stands under a key while a document is being read. -/
inductive Node where
  | value (value : Toml)
  | table (origin : Origin) (entries : List (String × Node))
  /-- Tables in a row, each opened by a section, the last first. -/
  | tables (last : List (String × Node)) (before : List (List (String × Node)))

/-- Entries under construction, in the order of their keys' first mention. -/
abbrev Entries := List (String × Node)

namespace Entries

/-- Change what stands under a key, which may be nothing yet; fails if the change does. -/
def alter? (key : String) (change : Option Node → Option Node) : Entries → Option Entries
  | [] => (change none).map fun node => [(key, node)]
  | (k, node) :: rest =>
    if k = key then (change (some node)).map fun node => (k, node) :: rest
    else (alter? key change rest).map ((k, node) :: ·)

/-- Put a value under a path, from a table of the path's own section or braces.  All tables on the
way are made by such paths; the last of them has to be. -/
def assign? (value : Toml) : List String → Entries → Option Entries
  | [], _ => none
  | [key], entries =>
    entries.alter? key fun
      | none => some (.value value)
      | some _ => none
  | key :: next :: rest, entries =>
    entries.alter? key fun
      | none => (assign? value (next :: rest) []).map (.table .dotted)
      | some (.table .dotted inner) => (assign? value (next :: rest) inner).map (.table .dotted)
      | some (.table .passed inner) =>
        if rest.isEmpty then none else (assign? value (next :: rest) inner).map (.table .passed)
      | some (.tables last before) =>
        if rest.isEmpty then none else (assign? value (next :: rest) last).map (.tables · before)
      | some _ => none

/-- Change the table that the name of a section leads to.  Tables on the way are made if need be; of
tables in a row the last is meant. -/
def within? (change : Entries → Option Entries) : List String → Entries → Option Entries
  | [], entries => change entries
  | key :: rest, entries =>
    entries.alter? key fun
      | none => (within? change rest []).map (.table .passed)
      | some (.table origin inner) => (within? change rest inner).map (.table origin)
      | some (.tables last before) => (within? change rest last).map (.tables · before)
      | some (.value _) => none

/-- Open the table of a section: a new one, or one that a longer name has passed through. -/
def openTable? (key : String) : Entries → Option Entries :=
  alter? key fun
    | none => some (.table .header [])
    | some (.table .passed inner) => some (.table .header inner)
    | some _ => none

/-- Append a table to the tables in a row under a key. -/
def appendTable? (key : String) : Entries → Option Entries :=
  alter? key fun
    | none => some (.tables [] [])
    | some (.tables last before) => some (.tables [] (last :: before))
    | some _ => none

end Entries

mutual

/-- What stands under a key, as a value. -/
def Node.toToml : Node → Toml
  | .value v => v
  | .table _ entries => .table (Entries.toTable entries)
  | .tables last before => .array (Entries.toTables before ++ [.table (Entries.toTable last)])

/-- Entries as the entries of a table. -/
def Entries.toTable : Entries → List (String × Toml)
  | [] => []
  | (key, node) :: rest => (key, node.toToml) :: Entries.toTable rest

/-- Tables in a row, the last first, as a list in order. -/
def Entries.toTables : List Entries → List Toml
  | [] => []
  | last :: before => Entries.toTables before ++ [.table (Entries.toTable last)]

end

end DocTables.Toml
