/-
# JSON values

A JSON value as the program holds it.  Integers keep their value while they fit in 64 bits, signed
or unsigned; every other number is a double precision number.  An object lists its members as they
were written, so a name can stand twice: what that means is for the reader of the object to decide.
-/

namespace DocTables

/-- A JSON number. -/
inductive Json.Number where
  /-- A whole number from `-2 ^ 63` up to `2 ^ 64 - 1`. -/
  | integer (value : Int)
  | real (value : Float)

/-- A JSON value. -/
inductive Json where
  | null
  | bool (value : Bool)
  | number (value : Json.Number)
  | string (value : String)
  | array (items : List Json)
  | object (members : List (String × Json))

namespace Json

instance : Inhabited Json := ⟨.null⟩

/-- The value of the last member of this name, if the value is an object that has one. -/
def member? (name : String) : Json → Option Json
  | .object members => members.reverse.lookup name
  | _ => none

/-- The text of a string. -/
def text? : Json → Option String
  | .string s => some s
  | _ => none

/-- The value of a whole number. -/
def integer? : Json → Option Int
  | .number (.integer n) => some n
  | _ => none

end Json

end DocTables
