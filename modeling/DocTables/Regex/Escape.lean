/-
# Characters, classes and conditions in patterns

After a backslash stands a character by its code, a class, a condition on the place, or a character
that would otherwise have a meaning of its own.
-/
import DocTables.Regex.ClassName
import DocTables.Regex.Expr
import DocTables.Regex.Flags
import DocTables.Text.Ascii
import DocTables.Text.Hex

namespace DocTables.Regex

/-- What a backslash and what follows it stand for. -/
inductive Atom where
  /-- A character; `byte` says that it is given by exactly two hexadecimal digits. -/
  | char (c : Char) (byte : Bool)
  | set (set : CharSet)
  | look (look : Look)
deriving Repr, DecidableEq

/-- The characters that have a meaning of their own somewhere in a pattern. -/
def metaChars : List Char := "\\.+*?()|[]\x7b\x7d^$#&-~".toList

/-- A text as a pattern that stands for the text itself: a backslash takes its meaning from every
character that has one. -/
def escaped (text : List Char) : List Char :=
  text.flatMap fun c => if metaChars.contains c then ['\\', c] else [c]

/-- Whether a backslash in front of the character leaves its plain meaning. -/
def isEscapable (c : Char) : Bool :=
  metaChars.contains c || (Text.isAscii c && !c.isAlphanum && c != '<' && c != '>')

/-- The set and all variants of its characters, while case is ignored. -/
def Flags.fold (f : Flags) (s : CharSet) : CharSet :=
  if !f.caseFold then s else if f.unicode then .folded s else .asciiFolded s

/-- The set or what is not in it.  Only characters have complements, not single bytes. -/
def Flags.negate? (f : Flags) (negated : Bool) (s : CharSet) : Option CharSet :=
  if !negated then some s else if f.unicode then some s.complement else none

/-! ## 1. Characters by their codes -/

/-- Take hexadecimal digits up to a closing brace. -/
def scanBraced (f : Flags) : Nat → List Char → Option (List Char × List Char)
  | 0, _ => none
  | fuel + 1, cs =>
    match f.skip cs with
    | [] => none
    | '}' :: rest => some ([], rest)
    | c :: rest => do
      let (digits, rest) ← scanBraced f fuel rest
      return (c :: digits, rest)

/-- Take a number of characters. -/
def scanSome (f : Flags) : Nat → List Char → Option (List Char × List Char)
  | 0, cs => some ([], cs)
  | n + 1, cs =>
    match f.skip cs with
    | [] => none
    | c :: rest => do
      let (digits, rest) ← scanSome f n rest
      return (c :: digits, rest)

/-- The character with the code that the digits stand for. -/
def charOfDigits? (digits : List Char) : Option Char := do
  if digits.isEmpty then none
  else
    let n ← Text.Hex.number? digits
    if h : n.isValidChar then some (Char.ofNatAux n h) else none

/-- A character by its code: in braces, or by a fixed number of digits. -/
def readCode (f : Flags) (width : Nat) (cs : List Char) : Option (Atom × List Char) :=
  match f.skip cs with
  | '{' :: rest => do
    let (digits, rest) ← scanBraced f (rest.length + 1) rest
    return (.char (← charOfDigits? digits) false, rest)
  | cs => do
    let (digits, rest) ← scanSome f width cs
    return (.char (← charOfDigits? digits) (width == 2), rest)

/-! ## 2. Classes by their names -/

/-- A class by the name of its property, one letter or a name in braces. -/
def readProperty (f : Flags) (negated : Bool) (cs : List Char) : Option (Atom × List Char) := do
  if !f.unicode then none
  else
    let (name, rest) ← match f.skip cs with
      | [] => none
      | '\\' :: _ => none
      | '{' :: rest => scanBraced f (rest.length + 1) rest
      | c :: rest => some ([c], rest)
    let (unlike, ranges) ← ClassName.ranges? name
    let set ← f.negate? (negated != unlike) (f.fold (.ranges ranges))
    return (.set set, rest)

/-- The class of a letter: digits, white space or word characters. -/
def shortClass (f : Flags) (letter : Char) : CharSet :=
  if f.unicode then
    if letter == 'd' then .ranges (Text.Category.ranges .decimalDigit)
    else if letter == 's' then .ranges Text.blankRanges
    else .ranges Text.wordRanges
  else
    if letter == 'd' then .ranges [(0x30, 0x39)]
    else if letter == 's' then .ranges [(0x09, 0x0D), (0x20, 0x20)]
    else .ranges [(0x30, 0x39), (0x41, 0x5A), (0x5F, 0x5F), (0x61, 0x7A)]

/-! ## 3. What a backslash can stand in front of -/

/-- The edges of words that have names. -/
def edgeNamed? (name : List Char) : Option Edge :=
  match String.ofList name with
  | "start" => some .start
  | "end" => some .finish
  | "start-half" => some .halfStart
  | "end-half" => some .halfFinish
  | _ => none

/-- The edge of a word that a name in braces asks for; any edge if what follows is no such name. -/
def readEdge (f : Flags) (cs : List Char) : Option (Edge × List Char) :=
  let isNameChar (c : Char) := c.isAlpha || c == '-'
  match cs with
  | '{' :: rest =>
    match f.skip rest with
    | [] => none
    | c :: more =>
      if isNameChar c then do
        let (name, rest) ← scanBraced f (more.length + 2) (c :: more)
        return (← edgeNamed? name, rest)
      else some (.either, cs)
  | _ => some (.either, cs)

/-- The character that a letter after a backslash stands for. -/
def controlChar? : Char → Option Char
  | 'a' => some '\x07'
  | 'f' => some '\x0c'
  | 't' => some '\t'
  | 'n' => some '\n'
  | 'r' => some '\r'
  | 'v' => some '\x0b'
  | _ => none

/-- What a backslash and what follows it stand for. -/
def readEscape (f : Flags) (cs : List Char) : Option (Atom × List Char) :=
  let edge (kind : Edge) : Atom := .look (.edge kind (!f.unicode))
  match cs with
  | [] => none
  | c :: rest =>
    if c == 'x' then readCode f 2 rest
    else if c == 'u' then readCode f 4 rest
    else if c == 'U' then readCode f 8 rest
    else if c == 'p' || c == 'P' then readProperty f (c == 'P') rest
    else if c == 'd' || c == 's' || c == 'w' then some (.set (shortClass f c), rest)
    else if c == 'D' || c == 'S' || c == 'W' then
      (f.negate? true (shortClass f c.toLower)).map fun s => (.set s, rest)
    else if isEscapable c then some (.char c false, rest)
    else if c == 'A' then some (.look .textStart, rest)
    else if c == 'z' then some (.look .textFinish, rest)
    else if c == 'b' then (readEdge f rest).map fun (kind, rest) => (edge kind, rest)
    else if c == 'B' then some (edge .neither, rest)
    else if c == '<' then some (edge .start, rest)
    else if c == '>' then some (edge .finish, rest)
    else (controlChar? c).map fun c => (.char c false, rest)

/-- The code of a character, unless it is given as a byte that is no character. -/
def codeOf? (f : Flags) (c : Char) (byte : Bool) : Option Char :=
  if !f.unicode && byte && !Text.isAscii c then none else some c

end DocTables.Regex
