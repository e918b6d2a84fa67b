/-
# Byte forms of characters

In UTF-8 a character takes one to four bytes.  The characters of a range are divided into parts of
one byte form each: the characters of a part are exactly those whose first byte lies in one range,
whose second byte lies in another, and so on.
-/
import DocTables.Text.Ranges

namespace DocTables.Text

/-- A range for each byte of a character. -/
abbrev ByteForm := List (Nat × Nat)

namespace ByteForm

/-- The number of bytes of a code point. -/
def lengthOf (code : Nat) : Nat :=
  if code < 0x80 then 1 else if code < 0x800 then 2 else if code < 0x10000 then 3 else 4

/-- What a byte that is not the first of its character has beside its digit. -/
def tailMark : Nat := 0x80

/-- The forms of the numbers from `low` to `high`, written with a first byte that bears a mark and
`tails` bytes of six bits after it.  The numbers are cut where the first byte changes, unless all
that follows it is free. -/
def ofSpan (mark : Nat) : Nat → Nat → Nat → List ByteForm
  | 0, low, high => [[(mark + low, mark + high)]]
  | tails + 1, low, high =>
    let unit := 1 <<< (6 * (tails + 1))
    let only (digit : Nat) (rests : List ByteForm) : List ByteForm :=
      rests.map ((mark + digit, mark + digit) :: ·)
    let lowDigit := low / unit
    let highDigit := high / unit
    if lowDigit = highDigit then
      only lowDigit (ofSpan tailMark tails (low % unit) (high % unit))
    else
      let first :=
        if low % unit = 0 then []
        else only lowDigit (ofSpan tailMark tails (low % unit) (unit - 1))
      let last :=
        if high % unit = unit - 1 then []
        else only highDigit (ofSpan tailMark tails 0 (high % unit))
      let freeLow := if low % unit = 0 then lowDigit else lowDigit + 1
      let freeHigh := if high % unit = unit - 1 then highDigit else highDigit - 1
      let free :=
        if freeLow ≤ freeHigh then
          (ofSpan tailMark tails 0 (unit - 1)).map ((mark + freeLow, mark + freeHigh) :: ·)
        else []
      first ++ free ++ last

/-- The blocks of code points that take the same number of bytes: their ends, the mark of the first
byte and the number of the others. -/
def blocks : List (Nat × Nat × Nat × Nat) :=
  [(0, 0x7F, 0, 0), (0x80, 0x7FF, 0xC0, 1), (0x800, 0xD7FF, 0xE0, 2), (0xE000, 0xFFFF, 0xE0, 2),
   (0x10000, 0x10FFFF, 0xF0, 3)]

/-- The forms of the characters of a range. -/
def ofRange (range : Nat × Nat) : List ByteForm :=
  blocks.flatMap fun (first, last, mark, tails) =>
    let low := max range.1 first
    let high := min range.2 last
    if low ≤ high then ofSpan mark tails low high else []

/-- The forms of the characters of ranges. -/
def ofRanges (rs : Ranges) : List ByteForm := rs.flatMap ofRange

example : ofRange (0x41, 0xE9) = [[(0x41, 0x7F)], [(0xC2, 0xC2), (0x80, 0xBF)],
    [(0xC3, 0xC3), (0x80, 0xA9)]] := by decide

end ByteForm

end DocTables.Text
