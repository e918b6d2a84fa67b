/-
# Columns as JSON

A column is an object with its name, the members of its kind and whether it is nullable; the kind
has a `type` and, with parts, an `element` or `fields`.  A reader takes the members in any order,
passes over names it does not know, refuses a name it needs that stands twice, and takes a column to
be nullable that does not say.
-/
import DocTables.Column
import DocTables.Json.Basic

namespace DocTables

/-! ## 1. Writing -/

mutual

/-- The members that describe a kind. -/
def Kind.members : Kind → List (String × Json)
  | .string => [("type", .string "string")]
  | .int32 => [("type", .string "int32")]
  | .int64 => [("type", .string "int64")]
  | .float32 => [("type", .string "float32")]
  | .float64 => [("type", .string "float64")]
  | .boolean => [("type", .string "boolean")]
  | .timestamp => [("type", .string "timestamp")]
  | .list c => [("type", .string "list"), ("element", Kind.columnToJson c)]
  | .struct cs => [("type", .string "struct"), ("fields", .array (Kind.columnsToJson cs))]

/-- A column of a kind as JSON. -/
def Kind.columnToJson : Column → Json
  | ⟨name, kind, nullable⟩ =>
    .object (("name", .string name) :: kind.members ++ [("nullable", .bool nullable)])

/-- Columns as JSON. -/
def Kind.columnsToJson : List Column → List Json
  | [] => []
  | c :: rest => Kind.columnToJson c :: Kind.columnsToJson rest

end

/-- A kind as JSON. -/
def Kind.toJson (k : Kind) : Json := .object k.members

/-- A column as JSON. -/
def Column.toJson (c : Column) : Json := Kind.columnToJson c

/-! ## 2. Reading -/

/-- What an object says that may describe a column: all values under each name, in order. -/
structure Column.Sketch where
  names : List Json
  nullables : List Json
  types : List Json
  elements : List (Option Column)
  fields : List (Option (List Column))

namespace Column.Sketch

/-- Nothing said. -/
def empty : Sketch := ⟨[], [], [], [], []⟩

/-- The kind of a type name, given what is said about parts. -/
def kindNamed? (s : Sketch) (type : String) : Option Kind :=
  if type == "list" then
    match s.elements with
    | [some c] => some (.list c)
    | _ => none
  else if type == "struct" then
    match s.fields with
    | [some cs] => some (.struct cs)
    | _ => none
  else Kind.simple.lookup type

/-- The names of the types in the order in which a number can stand for them. -/
def typeNames : List String := Kind.simple.map Prod.fst ++ ["list", "struct"]

/-- The name of the type: given as such, or as its place among the names. -/
def typeName? (j : Json) : Option String :=
  match j with
  | .string s => some s
  | .number (.integer n) => if 0 ≤ n then typeNames[n.toNat]? else none
  | _ => none

/-- The column that is described. -/
def column? (s : Sketch) : Option Column :=
  match s.names, s.types with
  | [.string name], [type] => do
    let kind ← s.kindNamed? (← typeName? type)
    match s.nullables with
    | [] => some ⟨name, kind, true⟩
    | [.bool nullable] => some ⟨name, kind, nullable⟩
    | _ => none
  | _, _ => none

end Column.Sketch

mutual

/-- The column that JSON describes. -/
def Column.ofJson? : Json → Option Column
  | .object members => (Column.sketch members).column?
  | _ => none

/-- The columns that a JSON array describes. -/
def Column.listOfJson? : Json → Option (List Column)
  | .array items => Column.itemsOfJson? items
  | _ => none

/-- The columns that JSON values describe. -/
def Column.itemsOfJson? : List Json → Option (List Column)
  | [] => some []
  | j :: rest =>
    match Column.ofJson? j, Column.itemsOfJson? rest with
    | some c, some cs => some (c :: cs)
    | _, _ => none

/-- What the members of an object say about a column. -/
def Column.sketch : List (String × Json) → Column.Sketch
  | [] => .empty
  | (name, j) :: rest =>
    let s := Column.sketch rest
    if name == "name" then { s with names := j :: s.names }
    else if name == "nullable" then { s with nullables := j :: s.nullables }
    else if name == "type" then { s with types := j :: s.types }
    else if name == "element" then { s with elements := Column.ofJson? j :: s.elements }
    else if name == "fields" then { s with fields := Column.listOfJson? j :: s.fields }
    else s

end

/-- The kind that JSON describes: an object, or an array of the type name and its parts. -/
def Kind.ofJson? : Json → Option Kind
  | .object members =>
    let s := Column.sketch members
    match s.types with
    | [.string type] => s.kindNamed? type
    | _ => none
  | .array [.string type] => Kind.simple.lookup type
  | .array [.string type, part] =>
    if type == "list" then (Column.ofJson? part).map .list
    else if type == "struct" then (Column.listOfJson? part).map .struct
    else none
  | _ => none

end DocTables
