/-
# The fewest digits that read back

A floating point number is written with as few digits as identify it.  For one digit, two digits
and so on, the two decimals next to the number on that grid are tested; the first grid with a
decimal that reads back wins, and of two such decimals the closer one.  Both can be equally close:
then the format that is being written decides.
-/
import DocTables.Decimal.Binary

namespace DocTables.Decimal

/-- Which of two equally close decimals is taken. -/
inductive Tie where
  | toEven
  | up
deriving Repr, DecidableEq

/-- The number of decimal digits. -/
def digitCount (n : Nat) : Nat := (Nat.toDigits 10 n).length

/-- The least `k` with `x < 10 ^ k`.  Scaling by `10 ^ shift` makes the number at least one, and
cutting off its fraction afterwards does not move it past a power of ten. -/
def Binary.scale (x : Binary) : Int :=
  let shift := (-x.exponent).toNat
  let scaled := x.significand * Nat.pow 2 x.exponent.toNat * Nat.pow 10 shift / Nat.pow 2 shift
  digitCount scaled - shift

/-- The number divided by `10 ^ g`, without its fraction. -/
def Binary.floorOn (x : Binary) (g : Int) : Nat :=
  x.significand * Nat.pow 2 x.exponent.toNat * Nat.pow 10 (-g).toNat /
    (Nat.pow 2 (-x.exponent).toNat * Nat.pow 10 g.toNat)

/-- The decimal on the grid `10 ^ g` that reads back and is closest, if there is one. -/
def Binary.onGrid (x : Binary) (tie : Tie) (g : Int) : Option Scaled :=
  let below : Scaled := ⟨x.floorOn g, g⟩
  let above : Scaled := ⟨x.floorOn g + 1, g⟩
  match x.readsBack below, x.readsBack above with
  | true, true =>
    match compareScaled (2 * below.digits + 1) g (2 * x.significand) x.exponent with
    | .gt => some below
    | .lt => some above
    | .eq => match tie with
      | .up => some above
      | .toEven => some (if below.digits % 2 == 0 then below else above)
  | true, false => some below
  | false, true => some above
  | false, false => none

/-- Move the zeros at the end of the digits into the exponent; `fuel` bounds their number. -/
def Scaled.strip : Nat → Scaled → Scaled
  | 0, d => d
  | fuel + 1, d =>
    if d.digits != 0 && d.digits % 10 == 0 then strip fuel ⟨d.digits / 10, d.exponent + 1⟩ else d

/-- The fewest digits that read back as `x`, which is not zero.  Seventeen always do, so the exact
value that stands for "none found" is never used. -/
def Binary.shortest (x : Binary) (tie : Tie) : Scaled :=
  let k := x.scale
  let found := (List.range 17).findSome? fun (n : Nat) => x.onGrid tie (k - n - 1)
  let exact : Scaled := ⟨x.significand * Nat.pow 2 x.exponent.toNat * Nat.pow 5 (-x.exponent).toNat,
    min x.exponent 0⟩
  (found.getD exact).strip 400

end DocTables.Decimal
