/-
# JSON tokens

JSON text is cut into brackets, separators and scalars; space, tab and line ends between them mean
nothing.  A number too large for double precision and a string that holds half a character are
tokens too: they are well formed, but stand for no value, which matters only where a value is asked
for.
-/
import DocTables.Json.Number
import DocTables.Json.Quoted

namespace DocTables.Json

/-- A token of JSON text. -/
inductive Token where
  | openArray
  | closeArray
  | openObject
  | closeObject
  | comma
  | colon
  | null
  | bool (value : Bool)
  | number (value : Option Number)
  | string (value : Option String)

/-- The characters that may stand between tokens. -/
def isSpace (c : Char) : Bool := c == ' ' || c == '\t' || c == '\n' || c == '\r'

/-- The token at the start of a text, which does not start with a space, and what follows it. -/
def scanToken (cs : List Char) : Option (Token × List Char) :=
  match cs with
  | '[' :: rest => some (.openArray, rest)
  | ']' :: rest => some (.closeArray, rest)
  | '{' :: rest => some (.openObject, rest)
  | '}' :: rest => some (.closeObject, rest)
  | ',' :: rest => some (.comma, rest)
  | ':' :: rest => some (.colon, rest)
  | 'n' :: 'u' :: 'l' :: 'l' :: rest => some (.null, rest)
  | 't' :: 'r' :: 'u' :: 'e' :: rest => some (.bool true, rest)
  | 'f' :: 'a' :: 'l' :: 's' :: 'e' :: rest => some (.bool false, rest)
  | '"' :: rest => (scanQuoted rest).map fun (s, rest) => (.string s, rest)
  | _ => (scanNumber cs).map fun (parts, rest) => (.number parts.value?, rest)

/-- The tokens of a text.  Each takes at least one character, so the length of the text and one more
is fuel enough. -/
def scanTokens : Nat → List Char → Option (List Token)
  | 0, _ => none
  | _ + 1, [] => some []
  | fuel + 1, c :: rest =>
    if isSpace c then scanTokens fuel rest
    else do
      let (token, rest) ← scanToken (c :: rest)
      let tokens ← scanTokens fuel rest
      return token :: tokens

/-- The tokens of a text; none if it holds something else. -/
def tokens? (text : String) : Option (List Token) :=
  scanTokens (text.toList.length + 1) text.toList

end DocTables.Json
