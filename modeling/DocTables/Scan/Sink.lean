/-
# Sinks

A scan hands its values to a sink, one by one, row by row.  A sink accepts a value, or refuses the
row that it belongs to, or fails.  It also says, whenever it is asked, whether the scan should go
on.  What it answers may depend on all that it has been told before, which is its state.
-/
import DocTables.Value

namespace DocTables

/-- What receives the values of a scan. -/
structure Sink (σ : Type) where
  /-- Take a value for a field of a row: whether the row is still wanted, or why the sink failed. -/
  offer : σ → String → Nat → Value → Except String Bool × σ
  /-- Take a list or a struct. -/
  offerComplex : σ → String → Nat → Value → Except String Bool × σ
  /-- The end of a row, and whether all of its values were accepted. -/
  endRow : σ → Nat → Bool → σ
  /-- Whether the scan should go on. -/
  isLive : σ → Bool × σ

/-! ## Rows in memory -/

/-- The rows that a sink has collected. -/
structure RowBuffer where
  rows : List Document
  /-- The row that is being filled. -/
  current : Document
  /-- The value that a field has to have for its row to be accepted. -/
  filter : Option (String × Value)

namespace RowBuffer

/-- No rows. -/
def empty : RowBuffer := ⟨[], .empty, none⟩

/-- No rows yet, and only those whose field has the value from now on. -/
def filtered (field : String) (value : Value) : RowBuffer := ⟨[], .empty, some (field, value)⟩

/-- Whether a value passes the filter. -/
def matches? (b : RowBuffer) (field : String) (value : Value) : Bool :=
  match b.filter with
  | some (name, expected) => name != field || value == expected
  | none => true

/-- Put a value into the current row; whether it passes the filter. -/
def offer (b : RowBuffer) (field : String) (value : Value) : Bool × RowBuffer :=
  (b.matches? field value, { b with current := b.current.insert field value })

/-- End the current row and keep it if it is accepted. -/
def endRow (b : RowBuffer) (accepted : Bool) : RowBuffer :=
  { b with current := .empty, rows := if accepted then b.rows ++ [b.current] else b.rows }

/-- A sink that collects rows and wants all of them. -/
def sink : Sink RowBuffer where
  offer b field _ value := ((b.offer field value).map .ok id)
  offerComplex b field _ value := ((b.offer field value).map .ok id)
  endRow b _ accepted := b.endRow accepted
  isLive b := (true, b)

end RowBuffer

end DocTables
