/-
# Space, lines and comments

Spaces and tabs may stand around keys and values.  A line ends with a line feed; a carriage return
in front of it belongs to the line end and may stand nowhere else.  A comment reaches from a number
sign to the end of its line and may hold any character but control characters.
-/

namespace DocTables.Toml

/-- Line ends without their carriage returns. -/
def unifyLines : List Char → List Char
  | '\r' :: '\n' :: rest => '\n' :: unifyLines rest
  | c :: rest => c :: unifyLines rest
  | [] => []

/-- Whether a character is a space or a tab. -/
def isSpace (c : Char) : Bool := c == ' ' || c == '\t'

/-- Whether a character may stand in comments and strings: any but a control character, except the
tab. -/
def isPlain (c : Char) : Bool := c == '\t' || (0x20 ≤ c.toNat && c.toNat != 0x7F)

/-- What follows leading spaces and tabs. -/
def skipSpace (cs : List Char) : List Char := cs.dropWhile isSpace

/-- What follows the line end at the start of a text; the end of the text counts as one. -/
def lineEnd? : List Char → Option (List Char)
  | [] => some []
  | '\n' :: rest => some rest
  | _ => none

/-- What follows the rest of a line, which holds nothing but space and a comment. -/
def endLine? (cs : List Char) : Option (List Char) :=
  match skipSpace cs with
  | '#' :: rest => lineEnd? (rest.dropWhile isPlain)
  | rest => lineEnd? rest

/-- What follows space, line ends and comments, each of which has its line end.  `inComment` tells
whether a comment is being passed over. -/
def skipLines? (inComment : Bool) : List Char → Option (List Char)
  | [] => if inComment then none else some []
  | c :: rest =>
    if c == '\n' then skipLines? false rest
    else if inComment then (if isPlain c then skipLines? true rest else none)
    else if isSpace c then skipLines? false rest
    else if c == '#' then skipLines? true rest
    else some (c :: rest)

end DocTables.Toml
