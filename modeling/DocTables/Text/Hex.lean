/-
# Hexadecimal digits

Bytes are written as two lower-case hexadecimal digits; both cases are read.  What is written reads
back (`bytes?_flatMap_ofByte`).
-/

namespace DocTables.Text.Hex

/-- The lower-case digit of a number below sixteen. -/
def digit (n : Nat) : Char :=
  if n < 10 then Char.ofNat ('0'.toNat + n) else Char.ofNat ('a'.toNat + (n - 10))

/-- The upper-case digit of a number below sixteen. -/
def upperDigit (n : Nat) : Char :=
  if n < 10 then Char.ofNat ('0'.toNat + n) else Char.ofNat ('A'.toNat + (n - 10))

/-- The number that a digit of either case stands for. -/
def digit? (c : Char) : Option Nat :=
  if '0' ≤ c ∧ c ≤ '9' then some (c.toNat - '0'.toNat)
  else if 'a' ≤ c ∧ c ≤ 'f' then some (c.toNat - 'a'.toNat + 10)
  else if 'A' ≤ c ∧ c ≤ 'F' then some (c.toNat - 'A'.toNat + 10)
  else none

theorem digit?_digit : ∀ n < 16, digit? (digit n) = some n := by decide

/-- The number that a run of digits stands for, the first digit the most significant. -/
def number? (cs : List Char) : Option Nat :=
  cs.foldlM (fun n c => (digit? c).map (n * 16 + ·)) 0

/-- A byte as two digits. -/
def ofByte (b : UInt8) : List Char := [digit (b.toNat / 16), digit (b.toNat % 16)]

/-- A number as at least `width` digits. -/
def padded (upper : Bool) (width n : Nat) : List Char :=
  (List.range width).reverse.map fun i =>
    (if upper then upperDigit else digit) (n / Nat.pow 16 i % 16)

/-- Bytes as hexadecimal text. -/
def ofBytes (bytes : List UInt8) : String := String.ofList (bytes.flatMap ofByte)

/-- The bytes that pairs of digits stand for. -/
def bytes? : List Char → Option (List UInt8)
  | [] => some []
  | [_] => none
  | a :: b :: rest => do
    let high ← digit? a
    let low ← digit? b
    let tail ← bytes? rest
    return UInt8.ofNat (high * 16 + low) :: tail

theorem bytes?_ofByte_append (b : UInt8) (rest : List Char) :
    bytes? (ofByte b ++ rest) = (bytes? rest).map (b :: ·) := by
  have h1 : digit? (digit (b.toNat / 16)) = some (b.toNat / 16) :=
    digit?_digit _ (by have := b.toNat_lt; omega)
  have h2 : digit? (digit (b.toNat % 16)) = some (b.toNat % 16) :=
    digit?_digit _ (Nat.mod_lt _ (by decide))
  have h3 : UInt8.ofNat (b.toNat / 16 * 16 + b.toNat % 16) = b := by
    rw [Nat.div_add_mod' b.toNat 16]
    exact UInt8.ofNat_toNat
  cases h : bytes? rest with
  | none => simp [ofByte, bytes?, h1, h2, h]
  | some tail =>
    rw [show ofByte b ++ rest = digit (b.toNat / 16) :: digit (b.toNat % 16) :: rest from rfl]
    rw [bytes?, h1, h2, h]
    exact congrArg (fun x => some (x :: tail)) h3

/-- Bytes written as hexadecimal digits read back. -/
theorem bytes?_flatMap_ofByte (bytes : List UInt8) :
    bytes? (bytes.flatMap ofByte) = some bytes := by
  induction bytes with
  | nil => rfl
  | cons b bs ih => rw [List.flatMap_cons, bytes?_ofByte_append, ih]; rfl

end DocTables.Text.Hex
