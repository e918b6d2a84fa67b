/-
# Switches

A pattern can set switches in its text.  They hold up to the end of the group in which they are set;
a space means nothing while `spaced` is on, nor does a comment.
-/
import DocTables.Text.Blank

namespace DocTables.Regex

/-- The switches that are on. -/
structure Flags where
  /-- Letters stand for their variants. -/
  caseFold : Bool
  /-- The anchors match at every line. -/
  multiLine : Bool
  /-- A dot stands for a line end, too. -/
  dotAll : Bool
  /-- Repetitions are lazy unless marked, instead of greedy. -/
  swapGreed : Bool
  /-- Classes and case go beyond ASCII. -/
  unicode : Bool
  /-- A carriage return ends a line, too. -/
  crlf : Bool
  spaced : Bool
deriving Repr, DecidableEq

namespace Flags

/-- The switches that are on at the start of a pattern: case is ignored, in all scripts. -/
def initial : Flags := ⟨true, false, false, false, true, false, false⟩

/-- Turn the switch of a letter on or off. -/
def set? (f : Flags) (letter : Char) (on : Bool) : Option Flags :=
  match letter with
  | 'i' => some { f with caseFold := on }
  | 'm' => some { f with multiLine := on }
  | 's' => some { f with dotAll := on }
  | 'U' => some { f with swapGreed := on }
  | 'u' => some { f with unicode := on }
  | 'R' => some { f with crlf := on }
  | 'x' => some { f with spaced := on }
  | _ => none

/-- What follows the spaces and comments; `comment` says that the text starts inside a comment. -/
def skipBlank (comment : Bool) : List Char → List Char
  | [] => []
  | c :: rest =>
    if comment then skipBlank (c != '\n') rest
    else if Text.isBlank c then skipBlank false rest
    else if c == '#' then skipBlank true rest
    else c :: rest

/-- What follows the spaces and comments, where they mean nothing. -/
def skip (f : Flags) (cs : List Char) : List Char := if f.spaced then skipBlank false cs else cs

/-- The character that a glance ahead shows.  A glance gets past spaces, but of a comment it shows
the first character that is no space. -/
def glance (f : Flags) (cs : List Char) : Option Char :=
  if !f.spaced then cs.head?
  else
    let shown := match cs.dropWhile Text.isBlank with
      | '#' :: rest => rest.dropWhile Text.isBlank
      | rest => rest
    shown.head? <|> cs.head?

/-- Read switches up to a colon or a closing parenthesis, which stays.  A letter, or the dash in
front of the switches to turn off, may stand once only, and the dash not at the end; `seen` holds
what has stood so far, the last first.  -/
def readSwitches (f : Flags) (seen : List Char) : List Char → Option (Flags × List Char × List Char)
  | [] => none
  | c :: rest =>
    if c == ':' || c == ')' then
      if seen.head? == some '-' then none else some (f, seen, c :: rest)
    else if seen.contains c then none
    else if c == '-' then readSwitches f (c :: seen) rest
    else do readSwitches (← f.set? c (!seen.contains '-')) (c :: seen) rest

end Flags

end DocTables.Regex
