/-
# Reading JSON numbers

A number is read digit by digit into an unsigned 64-bit significand.  Digits of the whole part that
no longer fit only count for the exponent, digits of the fraction that no longer fit are dropped.  A
number without fraction and exponent that fits stays a whole number; minus zero and everything else
becomes the significand times a power of ten, computed in double precision.
-/
import DocTables.Json.Basic
import DocTables.Text.Ascii

namespace DocTables.Json

open Text (isDigit digitValue)

/-- The greatest significand. -/
def maxSignificand : Nat := 0xFFFFFFFFFFFFFFFF

/-- Append the digits of the whole part; the second result counts the digits that did not fit. -/
def absorbWhole (significand : Nat) : List Char → Nat × Nat
  | [] => (significand, 0)
  | d :: rest =>
    let next := significand * 10 + digitValue d
    if next > maxSignificand then (significand, rest.length + 1) else absorbWhole next rest

/-- Append digits of the fraction while they fit; the second result counts them. -/
def absorbFraction (significand : Nat) : List Char → Nat × Nat
  | [] => (significand, 0)
  | d :: rest =>
    let next := significand * 10 + digitValue d
    if next > maxSignificand then (significand, 0)
    else
      let (s, taken) := absorbFraction next rest
      (s, taken + 1)

/-- The greatest power of ten that is a double precision number. -/
def maxPower : Nat := 308

/-- A power of ten, `n` at most `maxPower`. -/
def powerOfTen (n : Nat) : Float := Float.ofScientific 1 false n

/-- Divide by a power of ten, in steps of at most `maxPower`.  Two whole steps already take every
significand to zero, so `fuel` need not be larger. -/
def divideByPower : Nat → Float → Nat → Float
  | 0, f, _ => f
  | fuel + 1, f, n =>
    if n ≤ maxPower then f / powerOfTen n
    else if f == 0 then f
    else divideByPower fuel (f / powerOfTen maxPower) (n - maxPower)

/-- The significand times a power of ten; none if it is too large for double precision. -/
def scale? (significand : Nat) (exponent : Int) : Option Float :=
  let f := (UInt64.ofNat significand).toFloat
  if exponent < 0 then some (divideByPower 4 f exponent.natAbs)
  else if exponent ≤ maxPower then
    let product := f * powerOfTen exponent.toNat
    if product.isInf then none else some product
  else if f == 0 then some f
  else none

/-- The parts of a number as it is written. -/
structure Number.Parts where
  negative : Bool
  whole : List Char
  /-- The digits after the point, if there is one. -/
  fraction : Option (List Char)
  /-- Whether the exponent is negative and its digits, if there is one. -/
  exponent : Option (Bool × List Char)

/-- The exponent that is written; none stands for one beyond 32 bits. -/
def exponent? (digits : List Char) : Option Nat :=
  let n := digits.foldl (fun n c => min (n * 10 + digitValue c) 0x80000000) 0
  if n < 0x80000000 then some n else none

/-- The number that the parts stand for; none if it is too large for double precision. -/
def Number.Parts.value? (p : Number.Parts) : Option Number :=
  let (whole, unread) := absorbWhole 0 p.whole
  let signed (f : Float) : Number := .real (if p.negative then -f else f)
  match p.fraction, p.exponent with
  | none, none =>
    if unread > 0 then (scale? whole unread).map signed
    else if !p.negative then some (.integer whole)
    else if 0 < whole && whole ≤ 0x8000000000000000 then some (.integer (-whole))
    else some (signed (UInt64.ofNat whole).toFloat)
  | fraction, exponent =>
    let (significand, taken) := absorbFraction whole (fraction.getD [])
    let point : Int := unread - taken
    match exponent with
    | none => (scale? significand point).map signed
    | some (negative, digits) =>
      match exponent? digits with
      | some n => (scale? significand (if negative then point - n else point + n)).map signed
      | none => if significand == 0 || negative then some (signed 0) else none

/-- Split the leading digits off. -/
def spanDigits (cs : List Char) : List Char × List Char :=
  (cs.takeWhile isDigit, cs.dropWhile isDigit)

/-- The exponent at the start of a text, if there is one; fails where a mark has no digits. -/
def scanExponent (cs : List Char) : Option (Option (Bool × List Char) × List Char) :=
  match cs with
  | c :: rest =>
    if c == 'e' || c == 'E' then
      let (negative, rest) := match rest with
        | '+' :: r => (false, r)
        | '-' :: r => (true, r)
        | r => (false, r)
      let (digits, rest) := spanDigits rest
      if digits.isEmpty then none else some (some (negative, digits), rest)
    else some (none, cs)
  | [] => some (none, cs)

/-- The fraction at the start of a text, if there is one; fails where a point has no digits. -/
def scanFraction (cs : List Char) : Option (Option (List Char) × List Char) :=
  match cs with
  | '.' :: rest =>
    let (digits, rest) := spanDigits rest
    if digits.isEmpty then none else some (some digits, rest)
  | _ => some (none, cs)

/-- The number at the start of a text and what follows it.  A zero is a whole part of its own. -/
def scanNumber (cs : List Char) : Option (Number.Parts × List Char) := do
  let (negative, cs) := match cs with
    | '-' :: rest => (true, rest)
    | rest => (false, rest)
  let (whole, cs) ← match cs with
    | '0' :: rest => some (['0'], rest)
    | rest =>
      let (digits, rest) := spanDigits rest
      if digits.isEmpty then none else some (digits, rest)
  let (fraction, cs) ← scanFraction cs
  let (exponent, cs) ← scanExponent cs
  return (⟨negative, whole, fraction, exponent⟩, cs)

end DocTables.Json
