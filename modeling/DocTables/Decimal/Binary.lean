/-
# What the bits of a floating point number stand for

A finite binary number is `significand * 2 ^ exponent`.  Around it lies the interval of the reals
that round to it; `Binary.readsBack` decides, in exact arithmetic, whether a decimal lies in that
interval.  The ends belong to it exactly when the significand is even, and just above a power of
two the neighbour below is only half as far away as the neighbour above.
-/

namespace DocTables.Decimal

/-- How the bits of a binary format are shared out. -/
structure Format where
  fractionBits : Nat
  exponentBits : Nat

/-- Single precision. -/
def binary32 : Format := ⟨23, 8⟩

/-- Double precision. -/
def binary64 : Format := ⟨52, 11⟩

/-- The magnitude of a finite binary number, `significand * 2 ^ exponent`. -/
structure Binary where
  significand : Nat
  exponent : Int
  /-- The gap to the number below is half the gap to the number above. -/
  narrowBelow : Bool
deriving Repr, DecidableEq

/-- What a bit pattern stands for. -/
inductive Reading where
  | notANumber
  | infinite (negative : Bool)
  | finite (negative : Bool) (magnitude : Binary)
deriving Repr, DecidableEq

/-- Read the bits of a number of the given format. -/
def Format.read (f : Format) (bits : Nat) : Reading :=
  let fraction := bits % Nat.pow 2 f.fractionBits
  let field := bits / Nat.pow 2 f.fractionBits % Nat.pow 2 f.exponentBits
  let negative := bits / Nat.pow 2 (f.fractionBits + f.exponentBits) % 2 == 1
  let bias : Int := Nat.pow 2 (f.exponentBits - 1) - 1 + f.fractionBits
  if field == Nat.pow 2 f.exponentBits - 1 then
    if fraction == 0 then .infinite negative else .notANumber
  else if field == 0 then .finite negative ⟨fraction, 1 - bias, false⟩
  else .finite negative
    ⟨Nat.pow 2 f.fractionBits + fraction, field - bias, fraction == 0 && field != 1⟩

/-- The number `digits * 10 ^ exponent`. -/
structure Scaled where
  digits : Nat
  exponent : Int
deriving Repr, DecidableEq

/-- Compare `a * 10 ^ i` with `n * 2 ^ j`. -/
def compareScaled (a : Nat) (i : Int) (n : Nat) (j : Int) : Ordering :=
  compare (a * Nat.pow 10 i.toNat * Nat.pow 2 (-j).toNat)
    (n * Nat.pow 2 j.toNat * Nat.pow 10 (-i).toNat)

/-- Whether a decimal lies among the reals that round to `x`, half way going to the even one. -/
def Binary.readsBack (x : Binary) (d : Scaled) : Bool :=
  let low := if x.narrowBelow then 4 * x.significand - 1 else 4 * x.significand - 2
  let high := 4 * x.significand + 2
  let closed := x.significand % 2 == 0
  let atLow := compareScaled d.digits d.exponent low (x.exponent - 2)
  let atHigh := compareScaled d.digits d.exponent high (x.exponent - 2)
  (atLow == .gt || (closed && atLow == .eq)) && (atHigh == .lt || (closed && atHigh == .eq))

/-- Both ends of the interval around 1.0, and the points just outside it. -/
example :
    (match binary64.read 0x3FF0000000000000 with
      | .finite _ x => [x.readsBack ⟨(2 ^ 53 + 1) * 5 ^ 53, -53⟩,
          x.readsBack ⟨(2 ^ 53 + 1) * 5 ^ 53 + 1, -53⟩,
          x.readsBack ⟨(2 ^ 54 - 1) * 5 ^ 54, -54⟩,
          x.readsBack ⟨(2 ^ 54 - 1) * 5 ^ 54 - 1, -54⟩]
      | _ => []) = [true, false, true, false] := by decide +kernel

end DocTables.Decimal
