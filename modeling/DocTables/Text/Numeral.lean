/-
# Decimal integers in text

Sizes in environment values and command-line options, the text of wrapped 64-bit integers and
exponents are decimal integers with an optional sign.  A size may carry a plus but no minus; either
is refused when it leaves its range.
-/
import DocTables.Text.Ascii

namespace DocTables.Text

/-- The number that decimal digits stand for; at least one digit, and nothing but digits. -/
def nat? : List Char → Option Nat
  | [] => none
  | cs => if cs.all isDigit then some (cs.foldl (fun n c => n * 10 + digitValue c) 0) else none

/-- The largest size that the program handles. -/
def maxSize : Nat := 0xFFFFFFFFFFFFFFFF

/-- The least and the greatest 64-bit integer. -/
def minInt64 : Int := -0x8000000000000000
def maxInt64 : Int := 0x7FFFFFFFFFFFFFFF

/-- Whether an integer fits in 64 bits. -/
def fitsInt64 (n : Int) : Bool := minInt64 ≤ n && n ≤ maxInt64

/-- Whether an integer fits in 32 bits. -/
def fitsInt32 (n : Int) : Bool := -0x80000000 ≤ n && n < 0x80000000

/-- A size: digits, a plus allowed in front, at most `maxSize`. -/
def size? (s : String) : Option Nat :=
  let digits := match s.toList with
    | '+' :: rest => rest
    | cs => cs
  (nat? digits).filter (· ≤ maxSize)

/-- An integer: digits with an optional sign. -/
def int? : List Char → Option Int
  | '-' :: rest => (nat? rest).map fun n => -(n : Int)
  | '+' :: rest => (nat? rest).map Int.ofNat
  | cs => (nat? cs).map Int.ofNat

/-- An integer with an optional sign that fits in 64 bits. -/
def int64? (cs : List Char) : Option Int := (int? cs).filter fitsInt64

/-- An integer in decimal digits, with a minus if it is negative. -/
def ofInt (n : Int) : String :=
  if n < 0 then "-" ++ Nat.repr n.natAbs else Nat.repr n.natAbs

/-- A number in decimal digits, with zeros in front up to the given width. -/
def padZeros (width n : Nat) : String :=
  let digits := (Nat.repr n).toList
  String.ofList (List.replicate (width - digits.length) '0' ++ digits)

end DocTables.Text
