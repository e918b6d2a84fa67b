/-
# Writing TOML

A value under a key takes a line; a section has its name in brackets on a line.
-/
import DocTables.Toml.Reader

namespace DocTables.Toml

/-- A key: bare if it can be, otherwise in the quotes in which it needs no escape, otherwise in
double quotes.  -/
def keyText (key : String) : List Char :=
  let cs := key.toList
  let control := cs.any fun c => !isPlain c
  if !cs.isEmpty && cs.all isBare then cs
  else if !control && !cs.contains '\\' && longestRun '"' cs == 0 then basic cs
  else if !control && longestRun '\'' cs == 0 then literal cs
  else basic cs

/-- A value as it is written. -/
inductive Scalar where
  | string (text : String)
  | size (n : Nat)
  | boolean (value : Bool)

/-- The greatest whole number that can be written. -/
def maxInteger : Nat := 0x7FFFFFFFFFFFFFFF

/-- The text of a value; none for a size that is too large. -/
def Scalar.text? : Scalar → Option (List Char)
  | .string s => some (quote s.toList)
  | .size n => if n ≤ maxInteger then some (Nat.repr n).toList else none
  | .boolean b => some (if b then "true" else "false").toList

/-- The line of a value under a key. -/
def line? (key : String) (value : Scalar) : Option (List Char) :=
  value.text?.map fun text => keyText key ++ [' ', '=', ' '] ++ text ++ ['\n']

/-- The lines of values under keys. -/
def lines? (entries : List (String × Scalar)) : Option (List Char) := do
  return (← entries.mapM fun (key, value) => line? key value).flatten

/-- The line with the name of a section. -/
def header (name : String) : List Char := '[' :: keyText name ++ [']', '\n']

end DocTables.Toml
