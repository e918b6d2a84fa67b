/-
# Sets in brackets

In brackets stand characters, ranges, classes and further brackets.  `&&`, `--` and `~~` join what
stands before them, as far back as the bracket or the last such operation, with what comes after.
`height` counts how deep a set is nested, for the limit on patterns as a whole.
-/
import DocTables.Regex.Escape

namespace DocTables.Regex

/-- A set and how deep it is nested. -/
structure Member where
  set : CharSet
  height : Nat

/-- An operation between two sets. -/
inductive SetOp where
  | inter
  | diff
  | symmDiff
deriving Repr, DecidableEq

/-- The result of an operation. -/
def SetOp.apply : SetOp → CharSet → CharSet → CharSet
  | .inter, a, b => .inter a b
  | .diff, a, b => .diff a b
  | .symmDiff, a, b => .symmDiff a b

/-- An open bracket. -/
structure Bracket where
  negated : Bool
  /-- What has been read since the bracket or the last operation, the last first. -/
  members : List Member
  /-- The last operation and what stands before it. -/
  pending : Option (SetOp × Member)

namespace Bracket

/-- What has been read since the last operation, as one set. -/
def operand (b : Bracket) : Member :=
  match b.members.reverse with
  | [] => ⟨.none, 0⟩
  | [m] => m
  | ms => ⟨.unionOf (ms.map (·.set)), 1 + (ms.map (·.height)).foldl max 0⟩

/-- All that has been read, as one set. -/
def total (f : Flags) (b : Bracket) : Member :=
  let right := b.operand
  match b.pending with
  | none => right
  | some (op, left) =>
    ⟨op.apply (f.fold left.set) (f.fold right.set), 1 + max left.height right.height⟩

/-- Add what has been read. -/
def push (b : Bracket) (m : Member) : Bracket := { b with members := m :: b.members }

/-- Start an operation. -/
def operate (f : Flags) (b : Bracket) (op : SetOp) : Bracket :=
  { b with members := [], pending := some (op, b.total f) }

/-- The set of a bracket that ends here. -/
def close? (f : Flags) (b : Bracket) : Option Member := do
  let total := b.total f
  let set ← f.negate? b.negated (f.fold total.set)
  return ⟨set, total.height + 1⟩

end Bracket

/-! ## 1. Classes of ASCII characters -/

/-- The classes with names that stand in brackets and colons. -/
def asciiClasses : List (String × List (Nat × Nat)) :=
  [("alnum", [(0x30, 0x39), (0x41, 0x5A), (0x61, 0x7A)]),
   ("alpha", [(0x41, 0x5A), (0x61, 0x7A)]),
   ("ascii", [(0x00, 0x7F)]),
   ("blank", [(0x09, 0x09), (0x20, 0x20)]),
   ("cntrl", [(0x00, 0x1F), (0x7F, 0x7F)]),
   ("digit", [(0x30, 0x39)]),
   ("graph", [(0x21, 0x7E)]),
   ("lower", [(0x61, 0x7A)]),
   ("print", [(0x20, 0x7E)]),
   ("punct", [(0x21, 0x2F), (0x3A, 0x40), (0x5B, 0x60), (0x7B, 0x7E)]),
   ("space", [(0x09, 0x0D), (0x20, 0x20)]),
   ("upper", [(0x41, 0x5A)]),
   ("word", [(0x30, 0x39), (0x41, 0x5A), (0x5F, 0x5F), (0x61, 0x7A)]),
   ("xdigit", [(0x30, 0x39), (0x41, 0x46), (0x61, 0x66)])]

/-- The ranges of a class such as `[:alpha:]`, and whether it is negated, after the bracket. -/
def scanAsciiClass (cs : List Char) : Option (List (Nat × Nat) × Bool × List Char) :=
  match cs with
  | ':' :: rest =>
    let (negated, rest) := match rest with
      | '^' :: rest => (true, rest)
      | rest => (false, rest)
    let name := rest.takeWhile (· != ':')
    match rest.dropWhile (· != ':') with
    | ':' :: ']' :: rest =>
      (asciiClasses.lookup (String.ofList name)).map fun ranges => (ranges, negated, rest)
    | _ => none
  | _ => none

/-! ## 2. Reading -/

/-- Take the dashes at the start of a bracket. -/
def scanDashes (f : Flags) (b : Bracket) : Nat → List Char → Bracket × List Char
  | 0, cs => (b, cs)
  | fuel + 1, cs =>
    match cs with
    | '-' :: rest => scanDashes f (b.push ⟨.single '-', 0⟩) fuel (f.skip rest)
    | cs => (b, cs)

/-- The start of a bracket.  A closing bracket that comes first is an ordinary character. -/
def openBracket (f : Flags) (cs : List Char) : Bracket × List Char :=
  let cs := f.skip cs
  let (negated, cs) := match cs with
    | '^' :: rest => (true, f.skip rest)
    | cs => (false, cs)
  let (b, cs) := scanDashes f ⟨negated, [], none⟩ cs.length cs
  match b.members, cs with
  | [], ']' :: rest => (b.push ⟨.single ']', 0⟩, f.skip rest)
  | _, cs => (b, cs)

/-- A single character, or what an escape stands for. -/
def readAtom (f : Flags) (cs : List Char) : Option (Atom × List Char) :=
  match cs with
  | [] => none
  | '\\' :: rest => readEscape f rest
  | c :: rest => some (.char c false, rest)

/-- The character that an atom is.  Without the other scripts it has to be ASCII. -/
def Atom.char? (f : Flags) : Atom → Option Char
  | .char c _ => if f.unicode || Text.isAscii c then some c else none
  | _ => none

/-- A character, a class or a range. -/
def readMember (f : Flags) (cs : List Char) : Option (Member × List Char) := do
  let (first, rest) ← readAtom f cs
  let rest := f.skip rest
  let isRange := match rest with
    | '-' :: more =>
      let next := f.glance more
      next != some ']' && next != some '-'
    | _ => false
  if isRange then
    let (last, rest) ← readAtom f (f.skip (rest.drop 1))
    let low ← first.char? f
    let high ← last.char? f
    if low ≤ high then some (⟨.ranges [(low.toNat, high.toNat)], 0⟩, rest) else none
  else match first with
    | .char _ _ => (first.char? f).map fun c => (⟨.single c, 0⟩, rest)
    | .set s => some (⟨s, 0⟩, rest)
    | .look _ => none

/-- Read up to the end of the innermost bracket and of all around it. -/
def readBrackets (f : Flags) : Nat → Bracket → List Bracket → List Char →
    Option (Member × List Char)
  | 0, _, _, _ => none
  | fuel + 1, b, outer, cs =>
    match f.skip cs with
    | [] => none
    | '[' :: rest =>
      match scanAsciiClass rest with
      | some (ranges, negated, rest) => do
        let set ← f.negate? negated (f.fold (.ranges ranges))
        readBrackets f fuel (b.push ⟨set, 0⟩) outer rest
      | none =>
        let (inner, rest) := openBracket f rest
        readBrackets f fuel inner (b :: outer) rest
    | ']' :: rest => do
      let closed ← b.close? f
      match outer with
      | [] => some (closed, rest)
      | b :: outer => readBrackets f fuel (b.push closed) outer rest
    | '&' :: '&' :: rest => readBrackets f fuel (b.operate f .inter) outer rest
    | '-' :: '-' :: rest => readBrackets f fuel (b.operate f .diff) outer rest
    | '~' :: '~' :: rest => readBrackets f fuel (b.operate f .symmDiff) outer rest
    | cs => do
      let (m, rest) ← readMember f cs
      readBrackets f fuel (b.push m) outer rest

/-- The set after an opening bracket. -/
def readBracket (f : Flags) (cs : List Char) : Option (Member × List Char) :=
  let (b, rest) := openBracket f cs
  readBrackets f (cs.length + 1) b [] rest

end DocTables.Regex
