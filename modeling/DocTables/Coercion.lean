/-
# Values in the representation of their column

When a row is read, each value is brought into the representation that its column declares.
Coercion always yields a value: null stays null, identifiers become text, and a value that does not
fit the column is handed on as it is, for the sink to judge.
-/
import DocTables.Coercion.Integral
import DocTables.Column
import DocTables.Value.Display

namespace DocTables

/-- A value for a column of 64-bit integers: integers, and the whole parts of decimal text and of
floating point numbers as they are written. -/
def Value.toInt64 (v : Value) : Value :=
  let whole : Option Int64 := match v with
    | .int32 n => some n.toInt64
    | .int64 n => some n
    | .string s => (integralPart? s).map Int64.ofInt
    | .decimal s => (integralPart? s).map Int64.ofInt
    | .float32 _ => (integralPart? v.display).map Int64.ofInt
    | .float64 _ => (integralPart? v.display).map Int64.ofInt
    | _ => none
  match whole with
  | some n => .int64 n
  | none => v

/-- A value in the representation of a column of the given kind. -/
def coerce (kind : Kind) (v : Value) : Value :=
  match v with
  | .null => .null
  | .objectId id => .string id.text
  | _ =>
    match kind with
    | .string => match v with
      | .string _ => v
      | _ => .string v.display
    | .float64 => match v with
      | .int32 n => .float64 n.toFloat
      | .float32 f => .float64 f.toFloat
      | _ => v
    | .float32 => match v with
      | .int32 n => .float32 n.toFloat32
      | .float64 f => .float32 f.toFloat32
      | _ => v
    | .int32 => match v with
      | .float32 f => .int32 f.toInt32
      | .float64 f => .int32 f.toInt32
      | _ => v
    | .timestamp => match v with
      | .timestamp t => (t.instant?.map .dateTime).getD v
      | _ => v
    | .int64 => v.toInt64
    | _ => v

end DocTables
