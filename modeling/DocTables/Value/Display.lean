/-
# Values as text

A value in a text column is written plainly: a string without quotes, a number with its digits, an
identifier or an instant in its own notation.  Values that have no plain text are written as JSON.
-/
import DocTables.Value.Json
import DocTables.Json.Printer

namespace DocTables.Value

/-- Numbers in text are written with a point from 0.0001 up to sixteen digits, with an exponent
beyond, and the greater one of two equally close decimals is taken. -/
def numberLayout : Decimal.Layout where
  pointFrom := -4
  pointBelow := 16
  exponentPlus := false
  tie := .up
  notANumber := "NaN"
  infinite := "inf"

/-- A value as text. -/
def display : Value → String
  | .null => "null"
  | .bool b => if b then "true" else "false"
  | .int32 n => Text.ofInt n.toInt
  | .int64 n => Text.ofInt n.toInt
  | .float32 f => numberLayout.float32 f
  | .float64 f => numberLayout.float f
  | .decimal d => d
  | .string s => s
  | .objectId id => id.text
  | .timestamp t =>
    "Timestamp(" ++ Nat.repr t.time.toNat ++ ", " ++ Nat.repr t.increment.toNat ++ ")"
  | .dateTime i => i.text
  | v => v.toJson.compact

end DocTables.Value
