/-
# Sets of patterns

The patterns of a configuration stand in one text, with semicolons between them.  Their order
counts: a collection belongs to the first pattern that its name matches, and a table to the first
pattern of its name.  Without patterns every collection is a table of its own.
-/
import DocTables.Pattern
import DocTables.Text.Ascii
import DocTables.Text.Blank

namespace DocTables

/-- Patterns in order. -/
structure PatternSet where
  patterns : List Pattern

namespace PatternSet

/-- The segments of a text between semicolons. -/
def segments : List Char → List (List Char)
  | [] => [[]]
  | c :: rest =>
    if c == ';' then [] :: segments rest
    else
      match segments rest with
      | first :: others => (c :: first) :: others
      | [] => [[c]]

/-- The patterns that a text lists; blank segments do not count. -/
def ofText (text : String) : PatternSet :=
  let templates := (segments text.toList).map Text.trimChars
  ⟨(templates.filter (!·.isEmpty)).map fun t => .ofTemplate (String.ofList t)⟩

/-- The number of patterns. -/
def size (s : PatternSet) : Nat := s.patterns.length

/-- Whether there are no patterns. -/
def isEmpty (s : PatternSet) : Bool := s.patterns.isEmpty

/-- The first pattern whose table has this name, ignoring ASCII case. -/
def ofTable? (s : PatternSet) (table : String) : Option Pattern :=
  s.patterns.find? fun p => Text.eqIgnoreCase p.canonicalName table

/-- The first pattern that the name of a collection matches. -/
def ofCollection? (s : PatternSet) (collection : String) : Option Pattern :=
  s.patterns.find? (·.isMatch collection)

/-- The table that a collection belongs to. -/
def canonicalize (s : PatternSet) (collection : String) : String :=
  match s.ofCollection? collection with
  | some p => p.canonicalName
  | none => collection

/-- Whether a collection belongs to a table.  A table without a pattern takes every collection. -/
def accepts (s : PatternSet) (table collection : String) : Bool :=
  match s.ofTable? table with
  | some p => p.isMatch collection
  | none => true

/-- Whether a table has a pattern. -/
def isMultiTenant (s : PatternSet) (table : String) : Bool := (s.ofTable? table).isSome

/-- The placeholders of the pattern of a table. -/
def placeholders (s : PatternSet) (table : String) : List String :=
  match s.ofTable? table with
  | some p => p.placeholders
  | none => []

/-- What the placeholders of its pattern stand for in the name of a collection. -/
def captures (s : PatternSet) (collection : String) : Dictionary :=
  match s.ofCollection? collection with
  | some p => p.captures collection
  | none => .empty

end PatternSet

end DocTables
