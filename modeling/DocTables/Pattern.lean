/-
# Collection name patterns

A template such as `orders_{{tenant}}` describes the names of many collections: a placeholder stands
for a run of ASCII letters and digits, as short as possible, and the text around placeholders is a
regular expression.  The whole name has to match, and case does not count.  The table of such
collections is called like the template without its braces.

A template that is no regular expression stands for itself, braces included, again up to case; it
has no placeholders.
-/
import DocTables.Dictionary
import DocTables.Regex

namespace DocTables

/-! ## 1. Templates -/

/-- A piece of a template. -/
inductive Template.Piece where
  | literal (c : Char)
  | placeholder (name : String)
deriving Repr, DecidableEq

namespace Template

/-- The name up to the next closing braces, on the same line, and what follows them. -/
def scanName : List Char → Option (List Char × List Char)
  | [] => none
  | '\x7d' :: '\x7d' :: rest => some ([], rest)
  | c :: rest =>
    if c == '\n' then none
    else do
      let (name, rest) ← scanName rest
      return (c :: name, rest)

/-- The pieces of a template, with at most `fuel` of them.  Opening braces without closing ones are
ordinary text. -/
def scanPieces : Nat → List Char → List Piece
  | 0, _ => []
  | _ + 1, [] => []
  | fuel + 1, '\x7b' :: '\x7b' :: rest =>
    match scanName rest with
    | some (name, rest) => .placeholder (String.ofList name) :: scanPieces fuel rest
    | none => .literal '\x7b' :: scanPieces fuel ('\x7b' :: rest)
  | fuel + 1, c :: rest => .literal c :: scanPieces fuel rest

/-- The pieces of a template. -/
def pieces (template : String) : List Piece :=
  scanPieces (template.toList.length + 1) template.toList

/-- A template without the braces around its placeholders. -/
def canonicalName (pieces : List Piece) : String :=
  String.ofList <| pieces.flatMap fun
    | .literal c => [c]
    | .placeholder name => name.toList

/-- The names of placeholders in order, each once. -/
def placeholders (pieces : List Piece) : List String :=
  (pieces.filterMap fun
    | .literal _ => none
    | .placeholder name => some name).eraseDups

/-- What a placeholder may stand for. -/
def placeholderSource : List Char := "[a-zA-Z0-9]*?".toList

/-- The regular expression of a template. -/
def source (pieces : List Piece) : List Char :=
  let middle := pieces.flatMap fun
    | .literal c => [c]
    | .placeholder name => "(?P<".toList ++ name.toList ++ '>' :: placeholderSource ++ [')']
  '^' :: middle ++ ['$']

/-- The regular expression of a text that stands for itself. -/
def exactSource (text : List Char) : List Char := '^' :: Regex.escaped text ++ ['$']

end Template

/-! ## 2. Patterns -/

/-- How the names of collections are tested. -/
inductive Pattern.Matcher where
  | regex (regex : Regex)
  /-- No name at all. -/
  | never

/-- A template that has been prepared for matching. -/
structure Pattern where
  /-- The name of the table. -/
  canonicalName : String
  /-- The names of the placeholders in order, each once. -/
  placeholders : List String
  matcher : Pattern.Matcher

namespace Pattern

/-- The test for a text that stands for itself; a text that is too large matches nothing. -/
def Matcher.exact (text : List Char) : Matcher :=
  match Regex.ofText? (Template.exactSource text) with
  | some r => .regex r
  | none => .never

/-- The pattern of a template. -/
def ofTemplate (template : String) : Pattern :=
  let pieces := Template.pieces template
  let name := Template.canonicalName pieces
  match Regex.ofText? (Template.source pieces) with
  | some regex => ⟨name, Template.placeholders pieces, .regex regex⟩
  | none => ⟨name, [], .exact template.toList⟩

/-- Whether the name of a collection matches. -/
def isMatch (p : Pattern) (name : String) : Bool :=
  match p.matcher with
  | .regex r => r.isMatch name
  | .never => false

/-- What the placeholders stand for in the name of a collection; nothing if the name does not match.
A placeholder that no part of the name has matched is left out. -/
def captures (p : Pattern) (name : String) : Dictionary :=
  match p.matcher with
  | .regex r =>
    let text := name.toList.toArray
    match r.find? text with
    | some notes =>
      .ofList (p.placeholders.filterMap fun placeholder =>
        (r.named? text notes placeholder).map (placeholder, ·))
    | none => .empty
  | .never => .empty

end Pattern

end DocTables
