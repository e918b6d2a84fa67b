/-
# Writing JSON

A value is written on one line without spaces, or spread over lines that are indented by two spaces
for every open bracket.  Numbers keep a point or an exponent unless they are whole; a number that is
not finite is written as null.
-/
import DocTables.Json.Quoted
import DocTables.Decimal.Layout
import DocTables.Text.Numeral

namespace DocTables.Json

/-- Numbers are written with a point from 0.00001 up to sixteen digits, with a signed exponent
beyond, and the even one of two equally close decimals is taken. -/
def numberLayout : Decimal.Layout where
  pointFrom := -5
  pointBelow := 16
  exponentPlus := true
  tie := .toEven
  notANumber := "null"
  infinite := "null"

/-- A number as text. -/
def Number.text : Number → String
  | .integer n => Text.ofInt n
  | .real f => if f.isFinite then numberLayout.float f else "null"

mutual

/-- A value on one line. -/
def chars : Json → List Char
  | .null => "null".toList
  | .bool true => "true".toList
  | .bool false => "false".toList
  | .number n => n.text.toList
  | .string s => quote s
  | .array items => '[' :: charsOfItems items ++ [']']
  | .object members => '{' :: charsOfMembers members ++ ['}']

/-- Values with commas between them. -/
def charsOfItems : List Json → List Char
  | [] => []
  | [j] => j.chars
  | j :: rest => j.chars ++ ',' :: charsOfItems rest

/-- Members with commas between them. -/
def charsOfMembers : List (String × Json) → List Char
  | [] => []
  | [(k, j)] => quote k ++ ':' :: j.chars
  | (k, j) :: rest => quote k ++ ':' :: j.chars ++ ',' :: charsOfMembers rest

end

/-- A value as text on one line. -/
def compact (j : Json) : String := String.ofList j.chars

/-- A line end and the indentation below `depth` open brackets. -/
def newLine (depth : Nat) : List Char := '\n' :: List.replicate (2 * depth) ' '

mutual

/-- A value over several lines, inside `depth` open brackets. -/
def lines (depth : Nat) : Json → List Char
  | .array [] => ['[', ']']
  | .object [] => ['{', '}']
  | .array items => '[' :: linesOfItems (depth + 1) items ++ newLine depth ++ [']']
  | .object members => '{' :: linesOfMembers (depth + 1) members ++ newLine depth ++ ['}']
  | j => j.chars

/-- Values on lines of their own. -/
def linesOfItems (depth : Nat) : List Json → List Char
  | [] => []
  | [j] => newLine depth ++ j.lines depth
  | j :: rest => newLine depth ++ j.lines depth ++ ',' :: linesOfItems depth rest

/-- Members on lines of their own. -/
def linesOfMembers (depth : Nat) : List (String × Json) → List Char
  | [] => []
  | [(k, j)] => newLine depth ++ quote k ++ ':' :: ' ' :: j.lines depth
  | (k, j) :: rest =>
    newLine depth ++ quote k ++ ':' :: ' ' :: j.lines depth ++ ',' :: linesOfMembers depth rest

end

/-- A value as indented text. -/
def pretty (j : Json) : String := String.ofList (j.lines 0)

end DocTables.Json
