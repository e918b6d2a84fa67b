/-
# Classes of characters by name

A class is named by a yes/no property, a general category or a script, or by the value that a
property has.  Names agree up to case, spaces, dashes, low lines and an `is` in front.
-/
import DocTables.Text.Age
import DocTables.Text.Boundary
import DocTables.Text.Cut
import DocTables.Text.Script.Shared

namespace DocTables.Regex.ClassName

open Text (Ranges)

/-- A name in lower case, without separators and without an `is` in front, unless a single `c`
follows it.  -/
def plain (name : List Char) : String :=
  let kept := fun (cs : List Char) =>
    (cs.filter fun c => Text.isAscii c && c != ' ' && c != '_' && c != '-').map Char.toLower
  match name with
  | i :: s :: rest =>
    if i.toLower == 'i' && s.toLower == 's' then
      if kept rest == ['c'] then "isc" else String.ofList (kept rest)
    else String.ofList (kept name)
  | _ => String.ofList (kept name)

/-- The class of a general category, or of a group of them. -/
def category? (name : String) : Option Ranges :=
  match name with
  | "any" => some [(0, Ranges.lastCode)]
  | "assigned" => some (Ranges.scalars (Text.Category.ranges .unassigned).outside)
  | "ascii" => some [(0, 0x7F)]
  | _ => (Text.Category.named? name).map Text.Category.rangesOf

/-- The class of a name that stands alone. -/
def alone? (name : String) : Option Ranges :=
  (Text.Property.named? name).map (·.ranges) <|> category? name <|> Text.Script.ranges? name

/-- The class of the characters for which a property has a value. -/
def value? (property value : String) : Option Ranges :=
  match property with
  | "gc" | "generalcategory" => category? value
  | "sc" | "script" => Text.Script.ranges? value
  | "scx" | "scriptextensions" => Text.Script.extended? value
  | "age" => Text.Age.ranges? value
  | "gcb" | "graphemeclusterbreak" => Text.Boundary.cluster? value
  | "wb" | "wordbreak" => Text.Boundary.word? value
  | "sb" | "sentencebreak" => Text.Boundary.sentence? value
  | _ => none

/-- The marks between a property and its value, the first one that a text has counting, and whether
the class is of the characters that have another value. -/
def marks : List (List Char × Bool) := [(['!', '='], true), ([':'], false), (['='], false)]

/-- The class of a text, and whether the characters outside it are meant. -/
def ranges? (text : List Char) : Option (Bool × Ranges) :=
  match marks.findSome? fun (mark, unlike) => (Text.cut? mark text).map (unlike, ·) with
  | some (unlike, name, value) => (value? (plain name) (plain value)).map (unlike, ·)
  | none => (alone? (plain text)).map (false, ·)

end DocTables.Regex.ClassName
