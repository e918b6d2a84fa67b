/-
# Rows as lines

A sink that writes every accepted row as a line of JSON and ends the scan at a limit.  The lines go
to an output, which can fail.  A line that cannot be written ends the scan as well: no more is
written, and what went wrong is kept until the scan is over.
-/
import DocTables.Json.Printer
import DocTables.Scan.Sink
import DocTables.Value.Json

namespace DocTables

/-- Where lines go.  What an output answers may depend on the lines that it has taken, which it is
given with the last one first. -/
structure LineOutput where
  /-- Take one more line, or fail for a reason. -/
  write : List String → String → Except String Unit
  /-- Pass on what is held back, or fail for a reason. -/
  flush : List String → Except String Unit

/-- An output that never fails. -/
def LineOutput.sound : LineOutput := ⟨fun _ _ => .ok (), fun _ => .ok ()⟩

/-- How writing failed. -/
inductive OutputError where
  | notWritten (reason : String)
  | notFlushed (reason : String)
deriving Repr, DecidableEq

/-- The wording of an error. -/
def OutputError.message : OutputError → String
  | .notWritten reason => "Failed to write row: " ++ reason
  | .notFlushed reason => "Failed to flush output: " ++ reason

/-- The lines that have been written. -/
structure LinePrinter where
  output : LineOutput
  /-- The number of lines after which the scan is to end. -/
  limit : Option Nat
  /-- The lines, the last first. -/
  written : List String
  /-- The row that is being filled. -/
  current : Document
  /-- Why a line could not be written. -/
  failure : Option String

namespace LinePrinter

/-- No lines yet. -/
def onto (output : LineOutput) (limit : Option Nat) : LinePrinter :=
  ⟨output, limit, [], .empty, none⟩

/-- The lines in order. -/
def lines (p : LinePrinter) : List String := p.written.reverse

/-- Put a value into the current row. -/
def offer (p : LinePrinter) (field : String) (value : Value) : LinePrinter :=
  { p with current := p.current.insert field value }

/-- Write a line, unless a line has failed. -/
def print (p : LinePrinter) (line : String) : LinePrinter :=
  if p.failure.isSome then p
  else match p.output.write p.written line with
    | .ok () => { p with written := line :: p.written }
    | .error reason => { p with failure := some reason }

/-- End the current row and write it if it is accepted. -/
def endRow (p : LinePrinter) (accepted : Bool) : LinePrinter :=
  let next := { p with current := .empty }
  if accepted then next.print (Document.toJson p.current).compact else next

/-- Whether more lines may be written. -/
def isOpen (p : LinePrinter) : Bool :=
  p.failure.isNone && p.limit.all (p.written.length < ·)

/-- Flush the output; a line that could not be written comes before that. -/
def finish (p : LinePrinter) : Except OutputError Unit :=
  match p.failure with
  | some reason => .error (.notWritten reason)
  | none => (p.output.flush p.written).mapError .notFlushed

/-- The sink. -/
def sink : Sink LinePrinter where
  offer p field _ value := (.ok true, p.offer field value)
  offerComplex p field _ value := (.ok true, p.offer field value)
  endRow p _ accepted := p.endRow accepted
  isLive p := (p.isOpen, p)

end LinePrinter

end DocTables
