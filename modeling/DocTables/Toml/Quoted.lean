/-
# Quoted TOML text

A text stands in double quotes with escapes, or in single quotes as it is; in three quotes of either
sort it may run over several lines.  A line end right after three opening quotes is no part of the
text, and up to two quotes in front of three closing ones are.  In double quotes over several lines,
a backslash at the end of a line drops the line end and all space after it.
-/
import DocTables.Text.Hex
import DocTables.Toml.Space

namespace DocTables.Toml

/-! ## 1. Reading -/

/-- A text that has been read, and what follows it. -/
abbrev Read (α : Type) := Option (α × List Char)

/-- Put a character in front of a text that is read. -/
def readCons (c : Char) (read : Read (List Char)) : Read (List Char) :=
  read.map fun (cs, rest) => (c :: cs, rest)

/-- The characters that a backslash and a letter stand for. -/
def escapes : List (Char × Char) :=
  [('b', '\x08'), ('t', '\t'), ('n', '\n'), ('f', '\x0c'), ('r', '\r'), ('"', '"'), ('\\', '\\')]

/-- The character that hexadecimal digits stand for. -/
def character? (digits : List Char) : Option Char := do
  let code ← Text.Hex.number? digits
  if code.isValidChar then some (Char.ofNat code) else none

/-- The text up to a double quote and what follows the quote. -/
def scanBasic : List Char → Read (List Char)
  | [] => none
  | '"' :: rest => some ([], rest)
  | '\\' :: 'u' :: a :: b :: c :: d :: rest =>
    (character? [a, b, c, d]).bind (readCons · (scanBasic rest))
  | '\\' :: 'U' :: a :: b :: c :: d :: e :: f :: g :: h :: rest =>
    (character? [a, b, c, d, e, f, g, h]).bind (readCons · (scanBasic rest))
  | '\\' :: e :: rest => (escapes.lookup e).bind (readCons · (scanBasic rest))
  | c :: rest => if isPlain c && c != '\\' then readCons c (scanBasic rest) else none

/-- The text up to a single quote and what follows the quote. -/
def scanLiteral : List Char → Read (List Char)
  | [] => none
  | c :: rest =>
    if c == '\'' then some ([], rest)
    else if isPlain c then readCons c (scanLiteral rest)
    else none

/-- The quotes in front of the three that close a text, the three having been read, and what
follows: at most two.  -/
def closing (quote : Char) (rest : List Char) : List Char × List Char :=
  let run := (rest.take 2).takeWhile (· == quote)
  (run, rest.drop run.length)

/-- Whether nothing but space is left on a line. -/
def endsLine (cs : List Char) : Bool := (skipSpace cs).head? == some '\n'

/-- The text up to three double quotes and what follows them.  `folding` tells whether a line end
has been dropped and with it goes the space that follows.  -/
def scanMultiBasic (folding : Bool) : List Char → Read (List Char)
  | [] => none
  | '"' :: '"' :: '"' :: rest => some (closing '"' rest)
  | '\\' :: 'u' :: a :: b :: c :: d :: rest =>
    (character? [a, b, c, d]).bind (readCons · (scanMultiBasic false rest))
  | '\\' :: 'U' :: a :: b :: c :: d :: e :: f :: g :: h :: rest =>
    (character? [a, b, c, d, e, f, g, h]).bind (readCons · (scanMultiBasic false rest))
  | '\\' :: e :: rest =>
    if endsLine (e :: rest) then scanMultiBasic true (e :: rest)
    else (escapes.lookup e).bind (readCons · (scanMultiBasic false rest))
  | c :: rest =>
    if folding && (isSpace c || c == '\n') then scanMultiBasic true rest
    else if (isPlain c && c != '\\') || c == '\n' then readCons c (scanMultiBasic false rest)
    else none

/-- The text up to three single quotes and what follows them. -/
def scanMultiLiteral : List Char → Read (List Char)
  | [] => none
  | '\'' :: '\'' :: '\'' :: rest => some (closing '\'' rest)
  | c :: rest => if isPlain c || c == '\n' then readCons c (scanMultiLiteral rest) else none

/-- What follows a line end right after opening quotes. -/
def skipFirstLine : List Char → List Char
  | '\n' :: rest => rest
  | cs => cs

/-- The quoted text at the start of a text and what follows it. -/
def scanQuoted : List Char → Read (List Char)
  | '"' :: '"' :: '"' :: rest => scanMultiBasic false (skipFirstLine rest)
  | '"' :: rest => scanBasic rest
  | '\'' :: '\'' :: '\'' :: rest => scanMultiLiteral (skipFirstLine rest)
  | '\'' :: rest => scanLiteral rest
  | _ => none

/-! ## 2. Writing -/

/-- Whether a character is a control character that no quoted text holds as it is. -/
def isControl (c : Char) : Bool := !isPlain c && c != '\n'

/-- The length of the longest run of a character. -/
def longestRun (c : Char) (cs : List Char) : Nat :=
  (cs.foldl (fun (run, longest) x =>
    if x == c then (run + 1, max longest (run + 1)) else (0, longest)) (0, 0)).2

/-- The written form of a character in double quotes, unless it is a quote or a line end. -/
def escape (c : Char) : List Char :=
  if c == '\\' then ['\\', '\\']
  else if c == '\x08' then ['\\', 'b']
  else if c == '\t' then ['\\', 't']
  else if c == '\x0c' then ['\\', 'f']
  else if c == '\r' then ['\\', 'r']
  else if isControl c then '\\' :: 'u' :: Text.Hex.padded true 4 c.toNat
  else [c]

/-- Characters in double quotes on one line. -/
def escapeLine (cs : List Char) : List Char :=
  cs.flatMap fun c => if c == '"' then ['\\', '"'] else if c == '\n' then ['\\', 'n'] else escape c

/-- Characters in double quotes over several lines.  Of three quotes in a row the third is escaped;
`quotes` counts those in a row so far, which an escaped character ends. -/
def escapeLines (quotes : Nat) : List Char → List Char
  | [] => []
  | c :: rest =>
    if c == '"' then
      if quotes == 2 then '\\' :: '"' :: escapeLines 0 rest
      else '"' :: escapeLines (quotes + 1) rest
    else if c == '\n' then '\n' :: escapeLines 0 rest
    else escape c ++ escapeLines 0 rest

/-- A text in double quotes on one line. -/
def basic (cs : List Char) : List Char := '"' :: escapeLine cs ++ ['"']

/-- A text in single quotes on one line. -/
def literal (cs : List Char) : List Char := '\'' :: cs ++ ['\'']

/-- What stands between three opening quotes and a text: a line end if the text holds one. -/
def firstLine (cs : List Char) : List Char := if cs.contains '\n' then ['\n'] else []

/-- A text in three double quotes. -/
def multiBasic (cs : List Char) : List Char :=
  ['"', '"', '"'] ++ firstLine cs ++ escapeLines 0 cs ++ ['"', '"', '"']

/-- A text in three single quotes. -/
def multiLiteral (cs : List Char) : List Char :=
  ['\'', '\'', '\''] ++ firstLine cs ++ cs ++ ['\'', '\'', '\'']

/-- A text in the first of these forms in which it needs no escape: double quotes, single quotes,
three of either; if it needs one in all of them, in double quotes, three if it has a line end. -/
def quote (cs : List Char) : List Char :=
  let control := cs.any isControl
  let backslash := cs.contains '\\'
  let lineEnd := cs.contains '\n'
  if !control && !backslash && !lineEnd && longestRun '"' cs == 0 then basic cs
  else if !control && !lineEnd && longestRun '\'' cs == 0 then literal cs
  else if !control && !backslash && longestRun '"' cs ≤ 2 then multiBasic cs
  else if !control && longestRun '\'' cs ≤ 2 then multiLiteral cs
  else if lineEnd then multiBasic cs
  else basic cs

end DocTables.Toml
