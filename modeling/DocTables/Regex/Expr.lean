/-
# Regular expressions

An expression describes which stretches of a text match, and in which order the ways to match are
preferred: the first alternative before the second, and as many or as few repetitions as possible.
A group with a number records where its stretch starts and ends.
-/
import DocTables.Regex.CharSet
import DocTables.Text.Category

namespace DocTables.Regex

/-- What the two sides of a place between characters have to be at the edge of a word. -/
inductive Edge where
  /-- A word character on exactly one side. -/
  | either
  /-- A word character on both sides or on none. -/
  | neither
  | start
  | finish
  /-- No word character on the left. -/
  | halfStart
  /-- No word character on the right. -/
  | halfFinish
deriving Repr, DecidableEq

/-- A condition on a place between characters. -/
inductive Look where
  | textStart
  | textFinish
  /-- The start of a line; with `crlf`, a carriage return ends a line too. -/
  | lineStart (crlf : Bool)
  | lineFinish (crlf : Bool)
  /-- The edge of a word, of ASCII characters alone or of all. -/
  | edge (kind : Edge) (ascii : Bool)
deriving Repr, DecidableEq

/-- A regular expression. -/
inductive Expr where
  | empty
  | set (set : CharSet)
  | look (look : Look)
  | group (index : Option Nat) (body : Expr)
  | concat (first second : Expr)
  | alternate (first second : Expr)
  | repetition (min : Nat) (max : Option Nat) (greedy : Bool) (body : Expr)
deriving Repr, DecidableEq

namespace Expr

instance : Inhabited Expr := ⟨.empty⟩

/-- Whether the expression can match without taking a character. -/
def nullable : Expr → Bool
  | .empty => true
  | .set _ => false
  | .look _ => true
  | .group _ e => e.nullable
  | .concat a b => a.nullable && b.nullable
  | .alternate a b => a.nullable || b.nullable
  | .repetition min _ _ e => min == 0 || e.nullable

/-- Whether the expression never takes a character. -/
def consumesNothing : Expr → Bool
  | .empty => true
  | .set _ => false
  | .look _ => true
  | .group _ e => e.consumesNothing
  | .concat a b => a.consumesNothing && b.consumesNothing
  | .alternate a b => a.consumesNothing && b.consumesNothing
  | .repetition _ max _ e => max == some 0 || e.consumesNothing

/-- A repetition in its simplest form.  What takes no character is repeated at most once. -/
def repeated (min : Nat) (max : Option Nat) (greedy : Bool) (e : Expr) : Expr :=
  if max == some 0 then .empty
  else
    let (min, max) :=
      if e.consumesNothing then (min.min 1, some ((max.getD 1).min 1)) else (min, max)
    if min == 1 && max == some 1 then e else .repetition min max greedy e

/-- Expressions one after another. -/
def concatOf : List Expr → Expr
  | [] => .empty
  | [e] => e
  | e :: rest => .concat e (concatOf rest)

/-- Expressions as alternatives, the preferred ones first. -/
def alternateOf : List Expr → Expr
  | [] => .empty
  | [e] => e
  | e :: rest => .alternate e (alternateOf rest)

end Expr

/-! ## Places between characters -/

/-- Whether the character belongs to a word. -/
def isWordChar (ascii : Bool) (c : Char) : Bool :=
  if ascii then c.isAlphanum || c == '_' else Text.isWordChar c

/-- Whether an edge of a word lies between a word character or not on the left, and one or not on
the right.  -/
def Edge.holds : Edge → Bool → Bool → Bool
  | .either, left, right => left != right
  | .neither, left, right => left == right
  | .start, left, right => !left && right
  | .finish, left, right => left && !right
  | .halfStart, left, _ => !left
  | .halfFinish, _, right => !right

/-- Whether the condition holds between two neighbours, none standing for the end of the text. -/
def Look.holds : Look → Option Char → Option Char → Bool
  | .textStart, left, _ => left.isNone
  | .textFinish, _, right => right.isNone
  | .lineStart false, left, _ => left.isNone || left == some '\n'
  | .lineStart true, left, right =>
    left.isNone || left == some '\n' || (left == some '\r' && right != some '\n')
  | .lineFinish false, _, right => right.isNone || right == some '\n'
  | .lineFinish true, left, right =>
    right.isNone || right == some '\r' || (right == some '\n' && left != some '\r')
  | .edge kind ascii, left, right =>
    kind.holds (left.any (isWordChar ascii)) (right.any (isWordChar ascii))

end DocTables.Regex
