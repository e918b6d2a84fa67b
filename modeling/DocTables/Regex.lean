/-
# Patterns that can be searched for

`Regex.ofText?` reads a pattern and builds its program, unless the pattern is malformed or too
large.  A match gives the text that each named group has taken part in.
-/
import DocTables.Regex.Footprint
import DocTables.Regex.Reader
import DocTables.Regex.Search

namespace DocTables

/-- A pattern ready to be searched for. -/
structure Regex where
  program : Regex.Program
  /-- The names of groups and their numbers. -/
  names : List (String × Nat)

namespace Regex

/-- The pattern that a text describes. -/
def ofText? (source : List Char) : Option Regex := do
  let parsed ← parse? source
  if parsed.expr.fits then some ⟨.ofExpr parsed.expr, parsed.names⟩ else none

/-- The notes of the leftmost match in a text. -/
def find? (r : Regex) (text : Array Char) : Option Notes := r.program.find? text

/-- Whether the pattern matches somewhere in a text. -/
def isMatch (r : Regex) (text : String) : Bool := (r.find? text.toList.toArray).isSome

/-- The stretch of text that the group of a name has matched, given the notes of a match. -/
def named? (r : Regex) (text : Array Char) (notes : Notes) (name : String) : Option String := do
  notes.group? text (← r.names.lookup name)

end Regex

end DocTables
