/-
# Stores of JSON lines

A folder holds a database for every folder in it, and a database a collection for every file with
the extension `jsonl`.  Every line of such a file that is not blank holds one document as JSON.
-/
import DocTables.Files
import DocTables.Json.Draft
import DocTables.Store
import DocTables.Text.Blank
import DocTables.Value.Json

namespace DocTables

/-- A store of JSON lines in a folder. -/
structure JsonLinesStore where
  files : Files
  /-- The path of the folder. -/
  root : String

namespace JsonLinesStore

/-- The extension of collection files. -/
def extension : String := "jsonl"

/-- The mark in front of a connection text that is a path. -/
def scheme : String := "file://"

/-- A connection text without its mark, if it has one. -/
def pathOf (connection : String) : String :=
  if scheme.toList.isPrefixOf connection.toList then
    String.ofList (connection.toList.drop scheme.length)
  else connection

/-- Open the store at a path. -/
def open? (files : Files) (root : String) : Except StoreError JsonLinesStore :=
  if files.isFolder root then .ok ⟨files, root⟩
  else .error (.connectionFailed (root ++ " is not a directory"))

/-- Open the store of a connection text: a path, with or without the mark. -/
def connect (files : Files) (connection : String) : Except StoreError JsonLinesStore :=
  open? files (pathOf connection)

/-! ## 1. Lines -/

/-- A line from its bytes in reverse, without the carriage return at its end. -/
def lineOfReversed : List UInt8 → List UInt8
  | 13 :: rest => rest.reverse
  | bytes => bytes.reverse

/-- The lines of a file, each without its line end, given what has been read of the first one in
reverse.  A last line that nothing ends keeps its carriage return. -/
def linesAfter (line : List UInt8) : List UInt8 → List (List UInt8)
  | [] => if line.isEmpty then [] else [line.reverse]
  | 10 :: rest => lineOfReversed line :: linesAfter [] rest
  | b :: rest => linesAfter (b :: line) rest

/-- The lines of a file. -/
def lines (bytes : List UInt8) : List (List UInt8) := linesAfter [] bytes

/-- The document on a line, or why there is none. -/
def decode (path : String) (number : Nat) (line : String) : Row :=
  match Json.parse? line with
  | none => .error (.undecodable path number .malformed)
  | some json =>
    match Document.ofJson json with
    | .ok d => .ok d
    | .error message => .error (.undecodable path number (.noDocument message))

/-- The rows of lines, `count` lines having gone before.  A line that is no text does not count. -/
def rows (path : String) (count : Nat) : List (List UInt8) → List Row
  | [] => []
  | line :: rest =>
    match String.fromUTF8? ⟨line.toArray⟩ with
    | none => .error (.notText path) :: rows path count rest
    | some text =>
      if Text.isBlankText text then rows path (count + 1) rest
      else decode path (count + 1) text :: rows path (count + 1) rest

/-! ## 2. Cursors -/

/-- Where a cursor on a collection file stands. -/
structure LineCursor where
  /-- The lines that have not been read. -/
  lines : List (List UInt8)
  /-- How many lines have been read; a line that is no text does not count. -/
  count : Nat
  /-- How many documents have been handed out. -/
  returned : Nat

namespace LineCursor

/-- Read on to the next row, given the two counts.  Blank lines and documents that the query does
not select are passed over. -/
def advance (path : String) (q : Query) (count returned : Nat) :
    List (List UInt8) → Option (Row × LineCursor)
  | [] => none
  | line :: rest =>
    match String.fromUTF8? ⟨line.toArray⟩ with
    | none => some (.error (.notText path), ⟨rest, count, returned⟩)
    | some text =>
      if Text.isBlankText text then advance path q (count + 1) returned rest
      else
        match decode path (count + 1) text with
        | .error e => some (.error e, ⟨rest, count + 1, returned⟩)
        | .ok d =>
          if q.selects d then some (.ok (q.shape d), ⟨rest, count + 1, returned + 1⟩)
          else advance path q (count + 1) returned rest

/-- The next row, unless the query allows no more documents. -/
def next? (path : String) (q : Query) (c : LineCursor) : Option (Row × LineCursor) :=
  if q.limit.any (· ≤ c.returned) then none else advance path q c.count c.returned c.lines

theorem length_of_advance {path : String} {q : Query} {count returned : Nat}
    {lines : List (List UInt8)} {row : Row} {c : LineCursor}
    (h : advance path q count returned lines = some (row, c)) : c.lines.length < lines.length := by
  -- A row leaves the lines after its own; a line that is passed over leaves the rest to the others.
  have left {row' : Row} {line : List UInt8} {rest : List (List UInt8)} {n m : Nat}
      (h : some (row', (⟨rest, n, m⟩ : LineCursor)) = some (row, c)) :
      c.lines.length < (line :: rest).length := by
    obtain ⟨-, rfl⟩ := Prod.mk.inj (Option.some.inj h)
    exact Nat.lt_succ_self _
  fun_induction advance path q count returned lines with
  | case1 => simp at h
  | case2 | case4 | case5 => exact left h
  | case3 _ _ _ _ _ _ ih | case6 _ _ _ _ _ _ _ _ _ ih => exact Nat.lt_succ_of_lt (ih h)

/-- Reading takes lines away. -/
theorem length_of_next? {path : String} {q : Query} {c c' : LineCursor} {row : Row}
    (h : c.next? path q = some (row, c')) : c'.lines.length < c.lines.length := by
  unfold next? at h
  split at h
  · simp at h
  · exact length_of_advance h

/-- All rows that the cursor is still going to yield. -/
def toList (path : String) (q : Query) (c : LineCursor) : List Row :=
  match _h : c.next? path q with
  | none => []
  | some (row, c') => row :: c'.toList path q
termination_by c.lines.length
decreasing_by exact length_of_next? _h

end LineCursor

/-! ## 3. Answers -/

/-- The path of a database. -/
def databasePath (s : JsonLinesStore) (database : String) : Except StoreError String :=
  let path := Path.join s.root database
  if s.files.isFolder path then .ok path else .error (.databaseNotFound database)

/-- The names of the folders at a path. -/
def folderNames (files : Files) (path : String) : List String :=
  (files.entries path).filterMap fun
    | (name, .folder _) => some name
    | (_, .file _) => none

/-- The names of the collection files at a path, without their extension. -/
def collectionNames (files : Files) (path : String) : List String :=
  (files.entries path).filterMap fun
    | (_, .folder _) => none
    | (name, .file _) =>
      let (stem, ext) := Path.splitExtension name
      if ext == some extension then some stem else none

/-- A cursor on a collection. -/
def find (s : JsonLinesStore) (database collection : String) (q : Query) :
    Except StoreError Rows := do
  let path := Path.join (← s.databasePath database) (collection ++ "." ++ extension)
  match s.files.read? path with
  | some bytes => return .ofList (LineCursor.toList path q ⟨lines bytes, 0, 0⟩) none
  | none => throw (.collectionNotFound database collection)

/-- What the store answers. -/
def toStore (s : JsonLinesStore) : Store where
  databases := .ok (folderNames s.files s.root)
  collections database := do return collectionNames s.files (← s.databasePath database)
  find := s.find

end JsonLinesStore

end DocTables
