/-
# TOML numbers

A whole number is decimal with an optional sign, or hexadecimal, octal or binary without one; it has
to fit in 64 bits.  A fraction or an exponent makes a number real.  An underscore may stand between
two digits.  Infinity and what is not a number have names; a real number that is too large is
refused if it is positive and taken for minus infinity if it is negative.
-/
import DocTables.Text.Hex
import DocTables.Text.Numeral
import DocTables.Toml.Basic

namespace DocTables.Toml

/-- The digits at the start of a text, an underscore between two of them left out, and what follows
them. -/
def spanDigits (isDigit : Char → Bool) : List Char → List Char × List Char
  | [] => ([], [])
  | '_' :: d :: rest =>
    if isDigit d then
      let (digits, rest) := spanDigits isDigit rest
      (d :: digits, rest)
    else ([], '_' :: d :: rest)
  | d :: rest =>
    if isDigit d then
      let (digits, rest) := spanDigits isDigit rest
      (d :: digits, rest)
    else ([], d :: rest)

/-- The digits at the start of a text, of which there has to be one at least, and what follows them.
-/
def scanDigits (isDigit : Char → Bool) (cs : List Char) : Option (List Char × List Char) :=
  if cs.head?.any isDigit then some (spanDigits isDigit cs) else none

/-- Whether a character is a digit below a base of at most sixteen. -/
def isDigitBelow (base : Nat) (c : Char) : Bool := (Text.Hex.digit? c).any (· < base)

/-- The number that digits stand for. -/
def digitsValue (base : Nat) (digits : List Char) : Nat :=
  digits.foldl (fun n c => n * base + (Text.Hex.digit? c).getD 0) 0

/-- A whole number, if it fits in 64 bits. -/
def integer? (n : Int) : Option Toml := if Text.fitsInt64 n then some (.integer n) else none

/-- The base that a letter after a zero stands for. -/
def base? : Char → Option Nat
  | 'x' => some 16
  | 'o' => some 8
  | 'b' => some 2
  | _ => none

/-- A number beyond this power of ten is infinite in double precision, one below its inverse is
zero. -/
def powerLimit : Nat := 400

/-- The real number of some digits times a power of ten. -/
def realValue (digits : List Char) (exponent : Int) : Float :=
  let significand := digitsValue 10 digits
  let magnitude := digits.length + exponent
  if significand == 0 || magnitude < -powerLimit then 0
  else if powerLimit < magnitude - (digits.takeWhile (· == '0')).length then 1.0 / 0.0
  else if exponent < 0 then Float.ofScientific significand true exponent.natAbs
  else Float.ofScientific significand false exponent.toNat

/-- A real number with its sign.  One that is too large is refused unless it is negative. -/
def real? (negative : Bool) (value : Float) : Option Toml :=
  if negative then some (.real (-value))
  else if value.isInf then none
  else some (.real value)

/-- The sign at the start of a text, and what follows it. -/
def scanSign : List Char → Bool × List Char
  | '+' :: rest => (false, rest)
  | '-' :: rest => (true, rest)
  | cs => (false, cs)

/-- The exponent at the start of a text, which is zero if there is none, and what follows it. -/
def scanExponent (cs : List Char) : Option (Int × List Char) :=
  match cs with
  | c :: rest =>
    if c == 'e' || c == 'E' then do
      let (negative, rest) := scanSign rest
      let (digits, rest) ← scanDigits Text.isDigit rest
      let n := digitsValue 10 digits
      return (if negative then -n else n, rest)
    else some (0, cs)
  | [] => some (0, cs)

/-- The digits before the point of a decimal number and what follows them.  A zero stands alone. -/
def scanWhole (cs : List Char) : Option (List Char × List Char) :=
  match cs with
  | '0' :: rest => some (['0'], rest)
  | _ => scanDigits Text.isDigit cs

/-- What follows the whole part of a decimal number: a fraction, an exponent, both or none. -/
def scanTail (negative : Bool) (whole : List Char) (cs : List Char) : Option (Toml × List Char) :=
  match cs with
  | '.' :: rest => do
    let (fraction, rest) ← scanDigits Text.isDigit rest
    let (exponent, rest) ← scanExponent rest
    let number ← real? negative (realValue (whole ++ fraction) (exponent - fraction.length))
    return (number, rest)
  | c :: _ =>
    if c == 'e' || c == 'E' then do
      let (exponent, rest) ← scanExponent cs
      return (← real? negative (realValue whole exponent), rest)
    else do return (← integer? (signed negative whole), cs)
  | [] => do return (← integer? (signed negative whole), [])
where
  /-- The whole number of some digits with a sign. -/
  signed (negative : Bool) (digits : List Char) : Int :=
    let n : Int := digitsValue 10 digits
    if negative then -n else n

/-- The number at the start of a text and what follows it. -/
def scanNumber (cs : List Char) : Option (Toml × List Char) :=
  match cs with
  | '0' :: letter :: rest =>
    match base? letter with
    | some base => do
      let (digits, rest) ← scanDigits (isDigitBelow base) rest
      return (← integer? (digitsValue base digits), rest)
    | none => scanTail false ['0'] (letter :: rest)
  | _ =>
    let (negative, rest) := scanSign cs
    match rest with
    | 'i' :: 'n' :: 'f' :: rest => some (.real (if negative then -1.0 / 0.0 else 1.0 / 0.0), rest)
    | 'n' :: 'a' :: 'n' :: rest => some (.real (0.0 / 0.0), rest)
    | _ => do
      let (whole, rest) ← scanWhole rest
      scanTail negative whole rest

end DocTables.Toml
