/-
# The whole part of a decimal

Decimal text has an optional sign, digits with at most one point, and an optional exponent.  Its
whole part is what remains when the fraction is cut off after the point has been moved by the
exponent; it counts only if it fits in 64 bits.
-/
import DocTables.Text.Blank
import DocTables.Text.Numeral

namespace DocTables

/-- The parts of decimal text. -/
structure DecimalText where
  negative : Bool
  /-- The digits before the point. -/
  whole : List Char
  /-- The digits after the point. -/
  fraction : List Char
  exponent : Int

namespace DecimalText

/-- Split a text at the first character of a class, which is dropped. -/
def splitAtFirst (p : Char → Bool) (cs : List Char) : List Char × Option (List Char) :=
  match cs.dropWhile (fun c => !p c) with
  | [] => (cs, none)
  | _ :: rest => (cs.takeWhile (fun c => !p c), some rest)

/-- The marks in front of an exponent. -/
def isMark (c : Char) : Bool := c == 'e' || c == 'E'

/-- The exponent that stands after a mark; zero if there is no mark. -/
def exponent? : Option (List Char) → Option Int
  | none => some 0
  | some digits => Text.int64? digits

/-- The parts of a text after its sign. -/
def unsigned? (negative : Bool) (cs : List Char) : Option DecimalText := do
  let (mantissa, mark) := splitAtFirst isMark cs
  let exponent ← exponent? mark
  let (whole, fraction) := splitAtFirst (· == '.') mantissa
  let fraction := fraction.getD []
  if whole.isEmpty && fraction.isEmpty then none
  else if (whole ++ fraction).all Text.isDigit then some ⟨negative, whole, fraction, exponent⟩
  else none

/-- The parts of a text, white space around it aside. -/
def parse? (s : String) : Option DecimalText :=
  match Text.trimChars s.toList with
  | [] => none
  | '-' :: rest => unsigned? true rest
  | '+' :: rest => unsigned? false rest
  | cs => unsigned? false cs

/-- The digits before and after the point. -/
def digits (d : DecimalText) : List Char := d.whole ++ d.fraction

/-- The digits from the first that is not zero. -/
def significant (d : DecimalText) : List Char := d.digits.dropWhile (· == '0')

/-- Where the exponent moves the point to, counted from before the first significant digit. -/
def point (d : DecimalText) : Int :=
  d.whole.length - ((d.digits.length : Int) - d.significant.length) + d.exponent

/-- The digits before the point, which zeros fill up to it. -/
def integralDigits (d : DecimalText) : List Char :=
  let kept := d.significant.take d.point.toNat
  kept ++ List.replicate (d.point.toNat - kept.length) '0'

/-- The whole part without its sign. -/
def magnitude (d : DecimalText) : Nat := Nat.ofDigitChars 10 d.integralDigits 0

/-- The whole part of the number, if it fits in 64 bits. -/
def integral? (d : DecimalText) : Option Int :=
  if d.significant.isEmpty then some 0
  else if !Text.fitsInt64 d.point then none
  else if d.point ≤ 0 then some 0
  else if d.point > 19 then none
  else some (if d.negative then -(d.magnitude : Int) else d.magnitude) |>.filter Text.fitsInt64

end DecimalText

/-- The whole part of decimal text. -/
def integralPart? (s : String) : Option Int := do (← DecimalText.parse? s).integral?

example : integralPart? "12e-1" = some 1 ∧ integralPart? "-9223372036854775808" = some (-2 ^ 63) ∧
    integralPart? "9223372036854775808" = none ∧ integralPart? "." = none := by decide +kernel

end DocTables
