/-
# Reading patterns

A pattern is read from left to right.  What is open is kept on a stack: for every group its finished
alternatives and the one that is being read.  A pattern is refused if it is malformed, names two
groups alike or is nested too deep.
-/
import DocTables.Regex.Bracket
import DocTables.Text.Letters

namespace DocTables.Regex

/-- A part of a pattern. -/
structure Part where
  expr : Expr
  /-- How deep the part is nested. -/
  height : Nat
  /-- Whether a repetition can follow. -/
  repeatable : Bool

/-- How a group was opened. -/
inductive Opening where
  | capture (index : Nat)
  | plain
deriving Repr, DecidableEq

/-- A group that is open, or the whole pattern. -/
structure Level where
  opening : Opening
  /-- The switches in front of the group. -/
  outside : Flags
  /-- The finished alternatives, the last first. -/
  branches : List Part
  /-- The parts of the alternative that is being read, the last first. -/
  parts : List Part

namespace Level

/-- A group that has just been opened. -/
def start (opening : Opening) (outside : Flags) : Level := ⟨opening, outside, [], []⟩

/-- The greatest height among parts. -/
def maxHeight (parts : List Part) : Nat := (parts.map (·.height)).foldl max 0

/-- The alternative that is being read, as one part. -/
def branch (l : Level) : Part :=
  match l.parts.reverse with
  | [] => ⟨.empty, 0, false⟩
  | [p] => p
  | ps => ⟨.concatOf (ps.map (·.expr)), 1 + maxHeight ps, true⟩

/-- All alternatives, as one part. -/
def body (l : Level) : Part :=
  match (l.branch :: l.branches).reverse with
  | [p] => p
  | ps => ⟨.alternateOf (ps.map (·.expr)), 1 + maxHeight ps, true⟩

/-- The finished group. -/
def close (l : Level) : Part :=
  let body := l.body
  let index := match l.opening with
    | .capture index => some index
    | .plain => none
  ⟨.group index body.expr, 1 + body.height, true⟩

end Level

/-- What has been read. -/
structure Reader where
  flags : Flags
  level : Level
  /-- The groups around the innermost one. -/
  outer : List Level
  /-- The number of capturing groups. -/
  groups : Nat
  /-- The names of groups and their numbers. -/
  names : List (String × Nat)

namespace Reader

/-- Nothing read. -/
def start : Reader := ⟨.initial, .start .plain .initial, [], 0, []⟩

/-- Add a part. -/
def push (r : Reader) (p : Part) : Reader :=
  { r with level := { r.level with parts := p :: r.level.parts } }

/-- Open a group with the given switches inside. -/
def openGroup (r : Reader) (opening : Opening) (inside : Flags) : Reader :=
  { r with flags := inside, level := .start opening r.flags, outer := r.level :: r.outer }

/-- Whether a character may stand in the name of a group. -/
def isNameChar (first : Bool) (c : Char) : Bool :=
  if first then c == '_' || Text.isLetter c
  else c == '_' || c == '.' || c == '[' || c == ']' || Text.isLetterOrNumber c

/-- Whether a text can be the name of a group. -/
def isName : List Char → Bool
  | [] => false
  | c :: rest => isNameChar true c && rest.all (isNameChar false)

/-- Open a group that has a name. -/
def openNamed (r : Reader) (cs : List Char) : Option (Reader × List Char) :=
  let name := cs.takeWhile (· != '>')
  match cs.dropWhile (· != '>') with
  | [] => none
  | _ :: rest =>
    let text := String.ofList name
    if isName name && (r.names.lookup text).isNone then
      let index := r.groups + 1
      some ({ r.openGroup (.capture index) r.flags with
        groups := index, names := (text, index) :: r.names }, rest)
    else none

/-- Open a group, or set switches, after an opening parenthesis.  A look at what comes before or
after is refused. -/
def readOpening (r : Reader) (cs : List Char) : Option (Reader × List Char) :=
  match r.flags.skip cs with
  | '?' :: '=' :: _ => none
  | '?' :: '!' :: _ => none
  | '?' :: '<' :: '=' :: _ => none
  | '?' :: '<' :: '!' :: _ => none
  | '?' :: 'P' :: '<' :: rest => r.openNamed rest
  | '?' :: '<' :: rest => r.openNamed rest
  | '?' :: rest => do
    match ← r.flags.readSwitches [] rest with
    | (flags, seen, ')' :: rest) =>
      if seen.isEmpty then none else some ({ r with flags := flags }.push ⟨.empty, 0, false⟩, rest)
    | (flags, _, rest) => some (r.openGroup .plain flags, rest.drop 1)
  | rest =>
    let index := r.groups + 1
    some ({ r.openGroup (.capture index) r.flags with groups := index }, rest)

/-- Close the innermost group. -/
def closeGroup (r : Reader) : Option Reader :=
  match r.outer with
  | [] => none
  | level :: outer =>
    some ({ r with flags := r.level.outside, level := level, outer := outer }.push r.level.close)

/-- Start the next alternative. -/
def nextBranch (r : Reader) : Reader :=
  { r with level := { r.level with branches := r.level.branch :: r.level.branches, parts := [] } }

/-! ## 1. Repetitions -/

/-- The last part, if it can be repeated, and the reader without it. -/
def pop? (r : Reader) : Option (Part × Reader) :=
  match r.level.parts with
  | p :: parts => if p.repeatable then some (p, { r with level := { r.level with parts := parts } })
    else none
  | [] => none

/-- Repeat the last part; `lazy` says that it is marked so. -/
def repeatLast (r : Reader) (min : Nat) (max : Option Nat) (lazyMark : Bool) : Option Reader := do
  let (p, r) ← r.pop?
  let greedy := lazyMark == r.flags.swapGreed
  return r.push ⟨p.expr.repeated min max greedy, p.height + 1, true⟩

/-- Whether the repetition that ends here is marked as lazy, and what follows. -/
def scanLazy (cs : List Char) : Bool × List Char :=
  match cs with
  | '?' :: rest => (true, rest)
  | cs => (false, cs)

/-- The greatest count of a repetition. -/
def maxCount : Nat := 0xFFFFFFFF

/-- Take digits, passing over what means nothing. -/
def scanDigits (f : Flags) : Nat → List Char → List Char × List Char
  | 0, cs => ([], cs)
  | fuel + 1, cs =>
    match cs with
    | c :: rest =>
      if Text.isDigit c then
        let (digits, rest) := scanDigits f fuel (f.skip rest)
        (c :: digits, rest)
      else ([], cs)
    | [] => ([], [])

/-- Pass over white space, and comments after it. -/
def skipWhite (f : Flags) : Nat → List Char → List Char
  | 0, cs => cs
  | fuel + 1, cs =>
    match cs with
    | c :: rest => if Text.isBlank c then skipWhite f fuel (f.skip rest) else cs
    | [] => []

/-- A count with white space around it; an empty list of digits stands for no count. -/
def readCount (f : Flags) (cs : List Char) : List Char × List Char :=
  let cs := cs.dropWhile Text.isBlank
  let (digits, cs) := scanDigits f cs.length cs
  (digits, skipWhite f cs.length cs)

/-- The number that digits stand for. -/
def countOf? (digits : List Char) : Option Nat :=
  if digits.isEmpty then none
  else
    let n := digits.foldl (fun n c => n * 10 + Text.digitValue c) 0
    if n ≤ maxCount then some n else none

/-- Repeat the last part as often as the braces say. -/
def readCounted (r : Reader) (cs : List Char) : Option (Reader × List Char) := do
  let f := r.flags
  let (low, cs) := readCount f (f.skip cs)
  let min ← countOf? low
  let (max, cs) ← match cs with
    | ',' :: rest =>
      match f.skip rest with
      | '}' :: rest => some (none, '}' :: rest)
      | rest =>
        let (high, rest) := readCount f rest
        (countOf? high).map fun n => (some n, rest)
    | cs => some (some min, cs)
  match cs with
  | '}' :: rest =>
    let (isLazy, rest) := scanLazy (f.skip rest)
    if max.all (min ≤ ·) then return (← r.repeatLast min max isLazy, rest) else none
  | _ => none

/-! ## 2. Single characters and conditions -/

/-- Add a character or its variants. -/
def pushChar (r : Reader) (c : Char) : Reader :=
  r.push ⟨.set (r.flags.fold (.single c)), 0, true⟩

/-- Add what an escape stands for. -/
def pushAtom (r : Reader) : Atom → Option Reader
  | .char c byte => (codeOf? r.flags c byte).map r.pushChar
  | .set s => some (r.push ⟨.set s, 0, true⟩)
  | .look l => some (r.push ⟨.look l, 0, true⟩)

/-- The set of a dot. -/
def dot? (f : Flags) : Option CharSet :=
  if !f.unicode then none
  else if f.dotAll then some .all
  else if f.crlf then some (.complement (.ranges [(0x0A, 0x0A), (0x0D, 0x0D)]))
  else some (.complement (.single '\n'))

/-- The condition of an anchor. -/
def anchor (f : Flags) (atStart : Bool) : Look :=
  if atStart then if f.multiLine then .lineStart f.crlf else .textStart
  else if f.multiLine then .lineFinish f.crlf else .textFinish

/-! ## 3. The whole pattern -/

/-- Read the next part of a text that does not start with what means nothing. -/
def step (r : Reader) (c : Char) (rest : List Char) : Option (Reader × List Char) :=
  let repetition (min : Nat) (max : Option Nat) : Option (Reader × List Char) :=
    let (isLazy, rest) := scanLazy rest
    (r.repeatLast min max isLazy).map (·, rest)
  match c with
  | '(' => r.readOpening rest
  | ')' => r.closeGroup.map (·, rest)
  | '|' => some (r.nextBranch, rest)
  | '[' => do
    let (m, rest) ← readBracket r.flags rest
    return (r.push ⟨.set m.set, m.height, true⟩, rest)
  | '?' => repetition 0 (some 1)
  | '*' => repetition 0 none
  | '+' => repetition 1 none
  | '{' => r.readCounted rest
  | '\\' => do
    let (atom, rest) ← readEscape r.flags rest
    return (← r.pushAtom atom, rest)
  | '.' => (dot? r.flags).map fun s => (r.push ⟨.set s, 0, true⟩, rest)
  | '^' => some (r.push ⟨.look (anchor r.flags true), 0, true⟩, rest)
  | '$' => some (r.push ⟨.look (anchor r.flags false), 0, true⟩, rest)
  | c => some (r.pushChar c, rest)

/-- Read a text to its end.  Every part takes at least one character. -/
def readAll : Nat → Reader → List Char → Option Reader
  | 0, _, _ => none
  | fuel + 1, r, cs =>
    match r.flags.skip cs with
    | [] => some r
    | c :: rest => do
      let (r, rest) ← r.step c rest
      readAll fuel r rest

/-- How deep a pattern may be nested. -/
def maxHeight : Nat := 250

end Reader

/-- A pattern that has been read. -/
structure Parsed where
  expr : Expr
  /-- The names of groups and their numbers. -/
  names : List (String × Nat)

/-- Read a pattern; none if it is refused. -/
def parse? (source : List Char) : Option Parsed := do
  let r ← Reader.readAll (source.length + 1) .start source
  let body := r.level.body
  if r.outer.isEmpty && body.height ≤ Reader.maxHeight then some ⟨body.expr, r.names⟩ else none

end DocTables.Regex
