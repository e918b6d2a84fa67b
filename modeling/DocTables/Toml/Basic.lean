/-
# TOML values

A TOML value as the program holds it.  A date, a time or both are kept as their text, which is all
that is asked of them here.
-/

namespace DocTables

/-- A TOML value. -/
inductive Toml where
  | string (text : String)
  /-- A whole number of 64 bits. -/
  | integer (value : Int)
  | real (value : Float)
  | boolean (value : Bool)
  /-- A date, a time or both. -/
  | moment (text : String)
  | array (items : List Toml)
  /-- Values under keys, each key once. -/
  | table (entries : List (String × Toml))

namespace Toml

instance : Inhabited Toml := ⟨.table []⟩

/-- The text of a string. -/
def text? : Toml → Option String
  | .string s => some s
  | _ => none

/-- The truth value of a boolean. -/
def bool? : Toml → Option Bool
  | .boolean b => some b
  | _ => none

/-- The size that a whole number from zero stands for. -/
def size? : Toml → Option Nat
  | .integer n => if 0 ≤ n then some n.toNat else none
  | _ => none

end Toml

end DocTables
