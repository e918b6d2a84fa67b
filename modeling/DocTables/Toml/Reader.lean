/-
# Reading TOML

A document is a list of statements: a value under a path of keys, or the name of a section for the
values that follow.  Reading yields the statements, then puts their values together.  Brackets and
braces may be nested, and paths may be long, up to a limit.
-/
import DocTables.Toml.Entries
import DocTables.Toml.Moment
import DocTables.Toml.Number
import DocTables.Toml.Quoted

namespace DocTables.Toml

/-- No more keys stand in a path, and no more brackets are open at once. -/
def depthLimit : Nat := 79

/-! ## 1. Keys -/

/-- Whether a character may stand in a key without quotes. -/
def isBare (c : Char) : Bool :=
  Text.isDigit c || ('a' ≤ c && c ≤ 'z') || ('A' ≤ c && c ≤ 'Z') || c == '-' || c == '_'

/-- The key at the start of a text: in quotes on one line, or bare. -/
def scanKey : List Char → Option (String × List Char)
  | '"' :: rest => (scanBasic rest).map fun (key, rest) => (String.ofList key, rest)
  | '\'' :: rest => (scanLiteral rest).map fun (key, rest) => (String.ofList key, rest)
  | cs =>
    let key := cs.takeWhile isBare
    if key.isEmpty then none else some (String.ofList key, cs.dropWhile isBare)

/-- The keys of a path with points between them.  Every key and point takes a character, so the
length of the text is fuel enough.  -/
def scanKeys : Nat → List Char → Option (List String × List Char)
  | 0, _ => none
  | fuel + 1, cs => do
    let (key, cs) ← scanKey (skipSpace cs)
    match skipSpace cs with
    | '.' :: rest =>
      let (keys, rest) ← scanKeys fuel rest
      return (key :: keys, rest)
    | rest => return ([key], rest)

/-- The path at the start of a text, and what follows it. -/
def scanPath (cs : List Char) : Option (List String × List Char) := do
  let (keys, rest) ← scanKeys (cs.length + 1) cs
  if keys.length ≤ depthLimit then some (keys, rest) else none

/-! ## 2. Values -/

/-- A function that reads a value from the start of a text. -/
abbrev Scanner := List Char → Option (Toml × List Char)

/-- The items of a list after its opening bracket, and what follows the closing one.  Each item
takes a character.  -/
def scanItems (scan : Scanner) : Nat → List Char → Option (List Toml × List Char)
  | 0, _ => none
  | fuel + 1, cs => do
    match ← skipLines? false cs with
    | ']' :: rest => return ([], rest)
    | cs =>
      let (item, cs) ← scan cs
      match ← skipLines? false cs with
      | ',' :: rest =>
        let (items, rest) ← scanItems scan fuel rest
        return (item :: items, rest)
      | ']' :: rest => return ([item], rest)
      | _ => none

/-- A path, an equals sign and a value, and what follows them. -/
def scanAssignment (scan : Scanner) (cs : List Char) :
    Option ((List String × Toml) × List Char) := do
  match ← scanPath cs with
  | (path, '=' :: rest) =>
    let (value, rest) ← scan (skipSpace rest)
    return ((path, value), rest)
  | _ => none

/-- The assignments of a table in braces, of which there is one at least, and what follows the
closing brace.  Each takes a character.  -/
def scanMembers (scan : Scanner) : Nat → List Char → Option (List (List String × Toml) × List Char)
  | 0, _ => none
  | fuel + 1, cs => do
    let (member, cs) ← scanAssignment scan cs
    match skipSpace cs with
    | ',' :: rest =>
      let (members, rest) ← scanMembers scan fuel rest
      return (member :: members, rest)
    | '}' :: rest => return ([member], rest)
    | _ => none

/-- The table that assignments make. -/
def tableOf? (members : List (List String × Toml)) : Option Toml := do
  let entries ← members.foldlM (fun entries (path, value) => Entries.assign? value path entries) []
  return .table (Entries.toTable entries)

/-- The value at the start of a text that neither bracket nor brace opens, and what follows it. -/
def scanScalar (cs : List Char) : Option (Toml × List Char) :=
  match cs with
  | '"' :: _ | '\'' :: _ => (scanQuoted cs).map fun (s, rest) => (.string (String.ofList s), rest)
  | 't' :: 'r' :: 'u' :: 'e' :: rest => some (.boolean true, rest)
  | 'f' :: 'a' :: 'l' :: 's' :: 'e' :: rest => some (.boolean false, rest)
  | _ =>
    if startsDate cs || startsTime cs then
      (scanMoment cs).map fun (text, rest) => (.moment text, rest)
    else scanNumber cs

/-- The value at the start of a text with no more than `depth` brackets and braces open at once, and
what follows it. -/
def scanValue : Nat → Scanner
  | 0, cs => scanScalar cs
  | depth + 1, cs =>
    match cs with
    | '[' :: rest =>
      (scanItems (scanValue depth) (rest.length + 1) rest).map fun (items, rest) =>
        (.array items, rest)
    | '{' :: rest =>
      match skipSpace rest with
      | '}' :: rest => some (.table [], rest)
      | rest => do
        let (members, rest) ← scanMembers (scanValue depth) (rest.length + 1) rest
        return (← tableOf? members, rest)
    | _ => scanScalar cs

/-! ## 3. Documents -/

/-- A statement of a document. -/
inductive Statement where
  /-- A value under a path. -/
  | assignment (path : List String) (value : Toml)
  /-- The name of a table for the assignments that follow. -/
  | table (path : List String)
  /-- The name of tables in a row, to which the assignments that follow add one. -/
  | tables (path : List String)

/-- The statement at the start of a text, and what follows its line. -/
def scanStatement (cs : List Char) : Option (Statement × List Char) := do
  match cs with
  | '[' :: '[' :: rest =>
    match ← scanPath rest with
    | (path, ']' :: ']' :: rest) => return (.tables path, ← endLine? rest)
    | _ => none
  | '[' :: rest =>
    match ← scanPath rest with
    | (path, ']' :: rest) => return (.table path, ← endLine? rest)
    | _ => none
  | _ =>
    let ((path, value), rest) ← scanAssignment (scanValue depthLimit) cs
    return (.assignment path value, ← endLine? rest)

/-- The statements of a text.  Each takes a character, and so does every line without one. -/
def scanStatements : Nat → List Char → Option (List Statement)
  | 0, _ => none
  | fuel + 1, cs => do
    match skipSpace cs with
    | [] => return []
    | '\n' :: rest => scanStatements fuel rest
    | '#' :: rest => scanStatements fuel (← endLine? ('#' :: rest))
    | cs =>
      let (statement, rest) ← scanStatement cs
      return statement :: (← scanStatements fuel rest)

/-- The mark that may stand in front of a document and means nothing. -/
def byteOrderMark : Char := '\ufeff'

/-- A document without its mark, if it has one. -/
def skipMark : List Char → List Char
  | c :: rest => if c == byteOrderMark then rest else c :: rest
  | [] => []

/-- The statements of a document. -/
def statements? (text : String) : Option (List Statement) :=
  let cs := unifyLines (skipMark text.toList)
  scanStatements (cs.length + 1) cs

/-- Carry out statements one after another; `current` is the name of the section that they stand in.
-/
def build? (current : List String) (entries : Entries) : List Statement → Option Entries
  | [] => some entries
  | .assignment path value :: rest => do
    build? current (← entries.within? (Entries.assign? value path) current) rest
  | .table path :: rest => do
    let key ← path.getLast?
    build? path (← entries.within? (Entries.openTable? key) path.dropLast) rest
  | .tables path :: rest => do
    let key ← path.getLast?
    build? path (← entries.within? (Entries.appendTable? key) path.dropLast) rest

/-- The entries of the table that a document stands for. -/
def parse? (text : String) : Option (List (String × Toml)) := do
  return Entries.toTable (← build? [] [] (← statements? text))

end DocTables.Toml
