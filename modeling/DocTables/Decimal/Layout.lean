/-
# How the digits of a number are laid out

Once the digits are chosen, a layout says where the point stands, when an exponent is written
instead, and what stands for zero, infinity and a value that is no number.  Every number keeps a
point or an exponent, so that it is not mistaken for an integer.
-/
import DocTables.Decimal.Shortest

namespace DocTables.Decimal

/-- The decisions of a number format. -/
structure Layout where
  /-- The least exponent of the leading digit that is written with a point. -/
  pointFrom : Int
  /-- The first exponent of the leading digit that is written as an exponent. -/
  pointBelow : Int
  /-- Whether a positive exponent carries a plus. -/
  exponentPlus : Bool
  /-- Which of two equally close decimals is written. -/
  tie : Tie
  notANumber : String
  infinite : String

/-- The digits with a point, `e` being the exponent of the first digit. -/
def pointed (digits : List Char) (e : Int) : List Char :=
  if e < 0 then '0' :: '.' :: List.replicate (-e - 1).toNat '0' ++ digits
  else
    let whole := digits.take (e.toNat + 1)
    let fraction := digits.drop (e.toNat + 1)
    whole ++ List.replicate (e.toNat + 1 - digits.length) '0' ++ '.' ::
      (if fraction.isEmpty then ['0'] else fraction)

/-- The digits with an exponent. -/
def Layout.scientific (l : Layout) (digits : List Char) (e : Int) : List Char :=
  let sign := if e < 0 then ['-'] else if l.exponentPlus then ['+'] else []
  let fraction := digits.drop 1
  digits.take 1 ++ (if fraction.isEmpty then [] else '.' :: fraction) ++
    'e' :: sign ++ (Nat.repr e.natAbs).toList

/-- The magnitude of a finite number as text. -/
def Layout.magnitude (l : Layout) (x : Binary) : List Char :=
  if x.significand == 0 then ['0', '.', '0']
  else
    let d := x.shortest l.tie
    let digits := (Nat.repr d.digits).toList
    let e := d.exponent + digits.length - 1
    if l.pointFrom ≤ e && e < l.pointBelow then pointed digits e else l.scientific digits e

/-- What a bit pattern stands for, as text. -/
def Layout.render (l : Layout) : Reading → String
  | .notANumber => l.notANumber
  | .infinite negative => (if negative then "-" else "") ++ l.infinite
  | .finite negative x =>
    String.ofList ((if negative then ['-'] else []) ++ l.magnitude x)

/-- The text of a double precision number. -/
def Layout.float (l : Layout) (f : Float) : String := l.render (binary64.read f.toBits.toNat)

/-- The text of a single precision number. -/
def Layout.float32 (l : Layout) (f : Float32) : String := l.render (binary32.read f.toBits.toNat)

end DocTables.Decimal
