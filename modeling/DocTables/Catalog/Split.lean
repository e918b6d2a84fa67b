/-
# Splits

A split is a unit of scan work with an identifier and properties, one of which is the connection.
Every table is scanned as one split.

Identifiers have sixteen bytes.  They are written as groups of hexadecimal digits with dashes
between them, and read with or without the dashes, in braces, or as a name in the space `urn:uuid`.
-/
import DocTables.Json.Record

namespace DocTables

/-- An identifier of sixteen bytes. -/
structure SplitId where
  bytes : List UInt8
  length_bytes : bytes.length = 16
deriving DecidableEq

namespace SplitId

/-- The identifier of zeros. -/
def zero : SplitId := ⟨List.replicate 16 0, rfl⟩

instance : Inhabited SplitId := ⟨zero⟩

/-- The lengths of the groups of digits. -/
def groups : List Nat := [8, 4, 4, 4, 12]

/-- Digits in groups, with dashes between them. -/
def grouped : List Nat → List Char → List Char
  | [], _ => []
  | [n], digits => digits.take n
  | n :: rest, digits => digits.take n ++ '-' :: grouped rest (digits.drop n)

/-- Digits that stand in groups. -/
def ungrouped? : List Nat → List Char → Option (List Char)
  | [], _ => none
  | [n], cs => if cs.length == n then some cs else none
  | n :: rest, cs =>
    match cs.drop n with
    | '-' :: tail => (ungrouped? rest tail).map (cs.take n ++ ·)
    | _ => none

/-- An identifier as text. -/
def text (id : SplitId) : String :=
  String.ofList (grouped groups (id.bytes.flatMap Text.Hex.ofByte))

/-- What an identifier as a name starts with. -/
def urnStart : List Char := "urn:uuid:".toList

/-- The digits of an identifier in one of its forms. -/
def digits? (cs : List Char) : Option (List Char) :=
  if cs.length == 32 then some cs
  else if cs.length == 36 then ungrouped? groups cs
  else if cs.length == 38 && cs.head? == some '\x7b' && cs.getLast? == some '\x7d' then
    ungrouped? groups (cs.drop 1).dropLast
  else if cs.length == 45 && urnStart.isPrefixOf cs then ungrouped? groups (cs.drop urnStart.length)
  else none

/-- The identifier that a text stands for. -/
def parse? (s : String) : Option SplitId := do
  let bytes ← Text.Hex.bytes? (← digits? s.toList)
  if h : bytes.length = 16 then some ⟨bytes, h⟩ else none

end SplitId

/-- A unit of scan work. -/
structure Split where
  id : SplitId
  properties : Dictionary

namespace Split

/-- The property with the connection. -/
def connectionKey : String := "connStr"

/-- The split of a connection. -/
def ofConnection (id : SplitId) (connection : String) : Split :=
  ⟨id, .ofList [(connectionKey, connection)]⟩

/-- The connection of a split. -/
def connection? (s : Split) : Option String := s.properties.get? connectionKey

/-- A split as JSON. -/
def toJson (s : Split) : Json :=
  .object [("id", .string s.id.text), ("properties", Json.ofDictionary s.properties)]

/-- The split that JSON text describes. -/
def parse? (text : String) : Option Split := do
  match ← (← Json.Draft.parse? text).fields? ["id", "properties"] with
  | [some id, some properties] => return ⟨← SplitId.parse? (← id.text?), ← properties.dictionary?⟩
  | _ => none

end Split

end DocTables
