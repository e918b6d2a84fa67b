/-
# Points in time

An instant is a count of seconds since 1 January 1970 in universal time with a fraction in
nanoseconds.  A fraction of a second or more marks a leap second.  Instants are written and read in
the notation of RFC 3339; years beyond four digits can be written, with a sign, but not read.
-/
import DocTables.Calendar
import DocTables.Text.Numeral

namespace DocTables

/-- A point in time. -/
structure Instant where
  seconds : Int
  nanos : Nat
deriving Repr, DecidableEq

namespace Instant

/-- The first and the last year in which an instant can lie. -/
def minYear : Int := -262143
def maxYear : Int := 262142

/-- The instant a number of milliseconds after 1 January 1970, if its year is in range. -/
def ofMillis? (millis : Int) : Option Instant :=
  let seconds := millis.fdiv 1000
  let year := (Date.ofDays (seconds.fdiv 86400)).year
  if minYear ≤ year ∧ year ≤ maxYear then some ⟨seconds, (millis.fmod 1000).toNat * 1000000⟩
  else none

/-! ## 1. Writing -/

/-- A year: four digits, or a sign and at least four digits outside of 0 to 9999. -/
def yearText (year : Int) : String :=
  if 0 ≤ year ∧ year ≤ 9999 then Text.padZeros 4 year.natAbs
  else (if year < 0 then "-" else "+") ++ Text.padZeros 4 year.natAbs

/-- A fraction of a second with as many groups of three digits as it needs. -/
def fractionText (nanos : Nat) : String :=
  if nanos == 0 then ""
  else if nanos % 1000000 == 0 then "." ++ Text.padZeros 3 (nanos / 1000000)
  else if nanos % 1000 == 0 then "." ++ Text.padZeros 6 (nanos / 1000)
  else "." ++ Text.padZeros 9 nanos

/-- An instant as text, in universal time.  A leap second is the sixtieth of its minute. -/
def text (i : Instant) : String :=
  let date := Date.ofDays (i.seconds.fdiv 86400)
  let ofDay := (i.seconds.fmod 86400).toNat
  let leap := i.nanos ≥ 1000000000
  let second := ofDay % 60 + (if leap then 1 else 0)
  let nanos := if leap then i.nanos - 1000000000 else i.nanos
  yearText date.year ++ "-" ++ Text.padZeros 2 date.month ++ "-" ++ Text.padZeros 2 date.day ++
    "T" ++ Text.padZeros 2 (ofDay / 3600) ++ ":" ++ Text.padZeros 2 (ofDay / 60 % 60) ++ ":" ++
    Text.padZeros 2 second ++ fractionText nanos ++ "+00:00"

/-! ## 2. Reading -/

/-- The number that exactly `width` digits stand for, and what follows them. -/
def scanFixed (width : Nat) (cs : List Char) : Option (Nat × List Char) :=
  let digits := cs.take width
  if digits.length == width then (Text.nat? digits).map (·, cs.drop width) else none

/-- What follows one of the given characters. -/
def scanOneOf (allowed : List Char) : List Char → Option (List Char)
  | c :: rest => if allowed.contains c then some rest else none
  | [] => none

/-- The fraction after a point, in nanoseconds.  Digits after the ninth are passed over. -/
def scanNanos (cs : List Char) : Option (Nat × List Char) :=
  match cs with
  | '.' :: rest =>
    let digits := rest.takeWhile Text.isDigit
    let kept := digits.take 9
    (Text.nat? kept).map fun n =>
      (n * Nat.pow 10 (9 - kept.length), rest.dropWhile Text.isDigit)
  | _ => some (0, cs)

/-- The distance from universal time in seconds; it is less than a day. -/
def scanOffset (cs : List Char) : Option (Int × List Char) :=
  match cs with
  | 'Z' :: rest => some (0, rest)
  | 'z' :: rest => some (0, rest)
  | sign :: rest => do
    let negative ←
      if sign == '+' then some false
      else if sign == '-' || sign == '\u2212' then some true
      else none
    let (hours, rest) ← scanFixed 2 rest
    let rest ← scanOneOf [':'] rest
    let (minutes, rest) ← scanFixed 2 rest
    let distance : Int := hours * 3600 + minutes * 60
    if hours ≤ 23 ∧ minutes ≤ 59 then some (if negative then -distance else distance, rest)
    else none
  | [] => none

/-- The instant that a text stands for.  The sixtieth second of any minute is a leap second. -/
def parse? (s : String) : Option Instant := do
  let (year, cs) ← scanFixed 4 s.toList
  let cs ← scanOneOf ['-'] cs
  let (month, cs) ← scanFixed 2 cs
  let cs ← scanOneOf ['-'] cs
  let (day, cs) ← scanFixed 2 cs
  let cs ← scanOneOf ['T', 't', ' '] cs
  let (hour, cs) ← scanFixed 2 cs
  let cs ← scanOneOf [':'] cs
  let (minute, cs) ← scanFixed 2 cs
  let cs ← scanOneOf [':'] cs
  let (second, cs) ← scanFixed 2 cs
  let (nanos, cs) ← scanNanos cs
  let (offset, cs) ← scanOffset cs
  let date : Date := ⟨year, month, day⟩
  if cs.isEmpty ∧ date.isValid ∧ hour ≤ 23 ∧ minute ≤ 59 ∧ second ≤ 60 then
    let leap := second == 60
    let ofDay : Int := hour * 3600 + minute * 60 + (if leap then 59 else second)
    some ⟨date.toDays * 86400 + ofDay - offset, nanos + (if leap then 1000000000 else 0)⟩
  else none

example : (parse? "2016-12-31T23:59:60Z").map text = some "2016-12-31T23:59:60+00:00" := by
  decide +kernel

end Instant

end DocTables
