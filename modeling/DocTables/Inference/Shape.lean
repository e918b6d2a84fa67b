/-
# What has been observed of a field

`Shape` is the type of a field as far as the sampled documents show it.  Two observations are merged
into the least shape that covers both: nothing observed yields to anything, two widths of integers
give the greater width, an integer with a floating point number gives double precision, lists merge
their elements, structs unite their fields, and all else that differs is text.
-/
import DocTables.Column
import DocTables.Value

namespace DocTables

/-- The kinds of values without parts. -/
inductive Scalar where
  | string
  | int32
  | int64
  | float32
  | float64
  | boolean
  | timestamp
deriving Repr, DecidableEq

namespace Scalar

/-- Whether values of the kind are whole numbers. -/
def isInteger : Scalar → Bool
  | .int32 => true
  | .int64 => true
  | _ => false

/-- Whether values of the kind are floating point numbers. -/
def isFloat : Scalar → Bool
  | .float32 => true
  | .float64 => true
  | _ => false

/-- The column kind. -/
def kind : Scalar → Kind
  | .string => .string
  | .int32 => .int32
  | .int64 => .int64
  | .float32 => .float32
  | .float64 => .float64
  | .boolean => .boolean
  | .timestamp => .timestamp

/-- The least kind that covers both. -/
def merge (a b : Scalar) : Scalar :=
  if a = b then a
  else if a.isInteger && b.isInteger then .int64
  else if (a.isInteger || a.isFloat) && (b.isInteger || b.isFloat) then .float64
  else .string

end Scalar

/-- The observed type of a field. -/
inductive Shape where
  /-- No evidence yet: nulls, or the elements of empty lists. -/
  | unobserved
  | scalar (kind : Scalar)
  | list (element : Shape)
  | struct (fields : Fields Shape)

namespace Shape

instance : Inhabited Shape := ⟨.unobserved⟩

mutual

/-- The least shape that covers both.  Fields that only the second struct has come after those of
the first. -/
def merge : Shape → Shape → Shape
  | .unobserved, b => b
  | a, .unobserved => a
  | .scalar a, .scalar b => .scalar (a.merge b)
  | .list a, .list b => .list (merge a b)
  | .struct ⟨as⟩, .struct ⟨bs⟩ => .struct ⟨mergeEntries as bs⟩
  | _, _ => .scalar .string

/-- Merge observed fields into fields, one after another. -/
def mergeEntries (current : List (String × Shape)) :
    List (String × Shape) → List (String × Shape)
  | [] => current
  | (name, t) :: rest =>
    mergeEntries (Fields.alterEntries name
      (fun | none => t | some c => merge c t) current) rest

end

/-- Merge one observed field into fields. -/
def mergeField (fields : Fields Shape) (name : String) (observed : Shape) : Fields Shape :=
  ⟨mergeEntries fields.entries [(name, observed)]⟩

mutual

/-- The shape of a single value.  Values that no column kind declares are text. -/
def ofValue : Value → Shape
  | .null => .unobserved
  | .bool _ => .scalar .boolean
  | .int32 _ => .scalar .int32
  | .int64 n => .scalar (if Text.fitsInt32 n.toInt then .int32 else .int64)
  | .float32 _ => .scalar .float32
  | .float64 _ => .scalar .float64
  | .string _ => .scalar .string
  | .timestamp _ => .scalar .timestamp
  | .dateTime _ => .scalar .timestamp
  | .array items => .list (mergeItems .unobserved items)
  | .document ⟨entries⟩ => .struct ⟨mergeEntries [] (ofEntries entries)⟩
  | .decimal _ => .scalar .string
  | .objectId _ => .scalar .string
  | .binary _ => .scalar .string

/-- Merge the shapes of values into a shape. -/
def mergeItems (current : Shape) : List Value → Shape
  | [] => current
  | v :: rest => mergeItems (current.merge (ofValue v)) rest

/-- The shapes of named values. -/
def ofEntries : List (String × Value) → List (String × Shape)
  | [] => []
  | (name, v) :: rest => (name, ofValue v) :: ofEntries rest

end

mutual

/-- The column kind of a shape.  What has not been observed is text. -/
def kind : Shape → Kind
  | .unobserved => .string
  | .scalar s => s.kind
  | .list element => .listOf element.kind
  | .struct ⟨entries⟩ => .struct (columns entries)

/-- One nullable column for each field. -/
def columns : List (String × Shape) → List Column
  | [] => []
  | (name, t) :: rest => .ofKind name t.kind :: columns rest

end

end Shape

end DocTables
