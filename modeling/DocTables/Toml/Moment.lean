/-
# Dates and times in TOML

A date, a time of day, or a date with a time of day and perhaps a distance from universal time.
Four digits and a dash make a date, two digits and a colon a time; what starts like one of them has
to go on like it.  A fraction of a second is cut after nine digits.
-/
import DocTables.Instant

namespace DocTables.Toml

open Instant (scanFixed scanOneOf scanNanos)

/-- A number that two digits stand for, if it is in range, and what follows it. -/
def scanPair (least greatest : Nat) (cs : List Char) : Option (Nat × List Char) := do
  let (n, rest) ← scanFixed 2 cs
  if least ≤ n ∧ n ≤ greatest then some (n, rest) else none

/-- Two digits and a colon. -/
def startsTime (cs : List Char) : Bool :=
  match scanPair 0 23 cs with
  | some (_, ':' :: _) => true
  | _ => false

/-- Four digits and a dash. -/
def startsDate (cs : List Char) : Bool :=
  match scanFixed 4 cs with
  | some (_, '-' :: _) => true
  | _ => false

/-- The date at the start of a text, as text, and what follows it. -/
def scanDate (cs : List Char) : Option (String × List Char) := do
  let (year, cs) ← scanFixed 4 cs
  let cs ← scanOneOf ['-'] cs
  let (month, cs) ← scanPair 1 12 cs
  let cs ← scanOneOf ['-'] cs
  let (day, cs) ← scanPair 1 31 cs
  let date : Date := ⟨year, month, day⟩
  if date.isValid then
    some (Text.padZeros 4 year ++ "-" ++ Text.padZeros 2 month ++ "-" ++ Text.padZeros 2 day, cs)
  else none

/-- A fraction of a second with as many digits as it needs. -/
def fractionText (nanos : Nat) : String :=
  if nanos == 0 then ""
  else
    let digits := (Text.padZeros 9 nanos).toList
    String.ofList ('.' :: (digits.reverse.dropWhile (· == '0')).reverse)

/-- The time of day at the start of a text, as text, and what follows it. -/
def scanTime (cs : List Char) : Option (String × List Char) := do
  let (hour, cs) ← scanPair 0 23 cs
  let cs ← scanOneOf [':'] cs
  let (minute, cs) ← scanPair 0 59 cs
  let cs ← scanOneOf [':'] cs
  let (second, cs) ← scanPair 0 60 cs
  let (nanos, cs) ← scanNanos cs
  return (Text.padZeros 2 hour ++ ":" ++ Text.padZeros 2 minute ++ ":" ++ Text.padZeros 2 second ++
    fractionText nanos, cs)

/-- The distance from universal time at the start of a text, as text, and what follows it.  There
need not be one; a distance of zero is positive.  -/
def scanDistance (cs : List Char) : Option (String × List Char) :=
  match cs with
  | c :: rest =>
    if c == 'Z' || c == 'z' then some ("Z", rest)
    else if c == '+' || c == '-' then do
      let (hours, rest) ← scanPair 0 23 rest
      let rest ← scanOneOf [':'] rest
      let (minutes, rest) ← scanPair 0 59 rest
      let sign := if c == '-' && (hours, minutes) != (0, 0) then "-" else "+"
      return (sign ++ Text.padZeros 2 hours ++ ":" ++ Text.padZeros 2 minutes, rest)
    else some ("", cs)
  | [] => some ("", [])

/-- The date, time or both at the start of a text, as text, and what follows. -/
def scanMoment (cs : List Char) : Option (String × List Char) :=
  if startsDate cs then do
    let (date, cs) ← scanDate cs
    match scanOneOf ['T', 't', ' '] cs with
    | some rest =>
      if startsTime rest then
        let (time, rest) ← scanTime rest
        let (distance, rest) ← scanDistance rest
        return (date ++ "T" ++ time ++ distance, rest)
      else return (date, cs)
    | none => return (date, cs)
  else scanTime cs

end DocTables.Toml
