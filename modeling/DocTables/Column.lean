/-
# Columns and their kinds

A table has typed columns.  A list kind has one column for its elements, a struct kind has columns
of its own, so kinds and columns contain one another.  Columns may hold nulls unless they say
otherwise.
-/

namespace DocTables

/-- A column whose kind is taken from `κ`. -/
structure ColumnOf (κ : Type) where
  name : String
  kind : κ
  nullable : Bool

/-- The kinds that a column can have. -/
inductive Kind where
  | string
  | int32
  | int64
  | float32
  | float64
  | boolean
  | timestamp
  | list (element : ColumnOf Kind)
  | struct (fields : List (ColumnOf Kind))

/-- A named and typed column. -/
abbrev Column := ColumnOf Kind

instance : Inhabited Kind := ⟨.string⟩

/-- A nullable column. -/
def Column.ofKind (name : String) (kind : Kind) : Column := ⟨name, kind, true⟩

namespace Kind

/-- The name of the column that stands for the elements of a list. -/
def elementName : String := "item"

/-- A list of nullable elements of a kind. -/
def listOf (kind : Kind) : Kind := .list (Column.ofKind elementName kind)

/-- Whether values of the kind have parts. -/
def isComplex : Kind → Bool
  | .list _ => true
  | .struct _ => true
  | _ => false

/-- Whether values of the kind are numbers. -/
def isNumeric : Kind → Bool
  | .int32 => true
  | .int64 => true
  | .float32 => true
  | .float64 => true
  | _ => false

/-- The kind of the elements of a list. -/
def element? : Kind → Option Kind
  | .list c => some c.kind
  | _ => none

/-- The columns of a struct; other kinds have none. -/
def fields : Kind → List Column
  | .struct cs => cs
  | _ => []

/-- The kinds without parts and their names. -/
def simple : List (String × Kind) :=
  [("string", .string), ("int32", .int32), ("int64", .int64), ("float32", .float32),
   ("float64", .float64), ("boolean", .boolean), ("timestamp", .timestamp)]

mutual

/-- A kind as text, such as `struct<a:int32,tags:list<string>>`. -/
def chars : Kind → List Char
  | .string => "string".toList
  | .int32 => "int32".toList
  | .int64 => "int64".toList
  | .float32 => "float32".toList
  | .float64 => "float64".toList
  | .boolean => "boolean".toList
  | .timestamp => "timestamp".toList
  | .list ⟨_, kind, _⟩ => "list<".toList ++ kind.chars ++ ['>']
  | .struct cs => "struct<".toList ++ charsOfFields cs ++ ['>']

/-- The names and kinds of columns, with commas between them. -/
def charsOfFields : List Column → List Char
  | [] => []
  | [⟨name, kind, _⟩] => name.toList ++ ':' :: kind.chars
  | ⟨name, kind, _⟩ :: rest => name.toList ++ ':' :: kind.chars ++ ',' :: charsOfFields rest

end

/-- A kind as text. -/
def text (k : Kind) : String := String.ofList k.chars

end Kind

namespace Column

/-- A column as text. -/
def text (c : Column) : String := c.name ++ ": " ++ c.kind.text

/-- The first column of this name in a struct column. -/
def child? (c : Column) (name : String) : Option Column := c.kind.fields.find? (·.name == name)

end Column

end DocTables
