/-
# Outlines of expressions

A machine is not built from an expression as it is written but from its outline.  There characters
in a row are one literal, alternatives that are single characters are one set, and parts that all
alternatives start with stand once, in front of them.
-/
import DocTables.Regex.Expr
import DocTables.Text.ByteForm

namespace DocTables.Regex

/-- The outline of an expression. -/
inductive Outline where
  | empty
  /-- Characters in a row, by their code points. -/
  | literal (codes : List Nat)
  /-- A character of some ranges, and the byte forms of these characters. -/
  | set (ranges : Text.Ranges) (forms : List Text.ByteForm)
  | look (look : Look)
  | capture (index : Nat) (body : Outline)
  /-- A part, which is no sequence itself, and the parts after it. -/
  | sequence (first rest : Outline)
  /-- The preferred way, which is no choice itself, and the other ways. -/
  | choice (first rest : Outline)
  | repetition (min : Nat) (max : Option Nat) (greedy : Bool) (body : Outline)
deriving Repr, DecidableEq

namespace Outline

/-! ## 1. Sequences -/

/-- The outline of a set of characters; a set of one character is a literal. -/
def ofRanges (rs : Text.Ranges) : Outline :=
  match rs with
  | [(low, high)] => if low = high then .literal [low] else .set rs (Text.ByteForm.ofRanges rs)
  | rs => .set rs (Text.ByteForm.ofRanges rs)

/-- One outline after another. -/
def append : Outline → Outline → Outline
  | .empty, b => b
  | .sequence first rest, b => first.append (rest.append b)
  | .literal xs, .literal ys => .literal (xs ++ ys)
  | .literal xs, .sequence (.literal ys) rest => .sequence (.literal (xs ++ ys)) rest
  | a, .empty => a
  | a, b => .sequence a b

/-- Outlines one after another. -/
def inOrder (parts : List Outline) : Outline := parts.foldr append .empty

/-- The parts of a sequence. -/
def parts : Outline → List Outline
  | .empty => []
  | .sequence first rest => first :: rest.parts
  | o => [o]

/-- The parts of an outline that is a sequence. -/
def parts? : Outline → Option (List Outline)
  | .sequence first rest => some (first :: rest.parts)
  | _ => none

/-! ## 2. Choices -/

/-- The ways of a choice. -/
def ways : Outline → List Outline
  | .choice first rest => first :: rest.ways
  | o => [o]

/-- A choice among ways. -/
def ofWays : List Outline → Outline
  | [] => ofRanges []
  | [o] => o
  | o :: rest => .choice o (ofWays rest)

/-- The code point of a literal of one character. -/
def single? : Outline → Option Nat
  | .literal [code] => some code
  | _ => none

/-- The ranges of a set. -/
def ranges? : Outline → Option Text.Ranges
  | .set rs _ => some rs
  | _ => none

/-- The number of nodes. -/
def size : Outline → Nat
  | .capture _ o => o.size + 1
  | .sequence a b => a.size + b.size + 1
  | .choice a b => a.size + b.size + 1
  | .repetition _ _ _ o => o.size + 1
  | _ => 1

/-- The number of parts that all lists start with. -/
def sharedParts (first : List Outline) (others : List (List Outline)) : Nat :=
  others.foldl (fun n parts => ((first.take n).zip parts |>.takeWhile fun p => p.1 == p.2).length)
    first.length

/-- A choice in its simplest form, as far as `fuel` steps of taking out first parts lead. -/
def chooseWithin : Nat → List Outline → Outline
  | 0, options => ofWays options
  | fuel + 1, options =>
    let options := options.flatMap ways
    match options with
    | [o] => o
    | _ =>
      match options.mapM single?, options.mapM ranges?, options.mapM parts? with
      | some codes, _, _ => ofRanges (Text.Ranges.normal (codes.map fun code => (code, code)))
      | none, some rss, _ => ofRanges (Text.Ranges.normal rss.flatten)
      | none, none, some (first :: others) =>
        let n := sharedParts first others
        if n = 0 then ofWays options
        else
          let rests := (first :: others).map fun parts => inOrder (parts.drop n)
          inOrder (first.take n ++ [chooseWithin fuel rests])
      | _, _, _ => ofWays options

/-- A choice in its simplest form.  What is taken out leaves less in the ways. -/
def choose : List Outline → Outline
  | [o] => o
  | options => chooseWithin (options.foldr (size · + ·) 1) options

/-- The outlines of the alternatives of an expression. -/
def alternatives : Expr → List Outline
  | .empty => [.empty]
  | .set s => [ofRanges s.codes.scalars]
  | .look l => [.look l]
  | .group none e => [choose (alternatives e)]
  | .group (some index) e => [.capture index (choose (alternatives e))]
  | .concat a b => [(choose (alternatives a)).append (choose (alternatives b))]
  | .alternate a b => choose (alternatives a) :: alternatives b
  | .repetition min max greedy e => [.repetition min max greedy (choose (alternatives e))]

/-- The outline of an expression. -/
def ofExpr (e : Expr) : Outline := choose (alternatives e)

/-! ## 3. Lengths and places -/

/-- The number of bytes of a literal. -/
def literalLength (codes : List Nat) : Nat := codes.foldr (Text.ByteForm.lengthOf · + ·) 0

/-- The least number of bytes that can match; none if nothing can. -/
def least? : Outline → Option Nat
  | .empty => some 0
  | .literal codes => some (literalLength codes)
  | .set _ forms => forms.head?.map List.length
  | .look _ => some 0
  | .capture _ o => o.least?
  | .sequence a b => do return (← a.least?) + (← b.least?)
  | .choice a b => do return min (← a.least?) (← b.least?)
  | .repetition min _ _ o => o.least?.map (min * ·)

/-- The greatest number of bytes that can match; none if there is none. -/
def greatest? : Outline → Option Nat
  | .empty => some 0
  | .literal codes => some (literalLength codes)
  | .set _ forms => forms.getLast?.map List.length
  | .look _ => some 0
  | .capture _ o => o.greatest?
  | .sequence a b => do return (← a.greatest?) + (← b.greatest?)
  | .choice a b => do return max (← a.greatest?) (← b.greatest?)
  | .repetition _ max _ o => do return (← o.greatest?) * (← max)

/-- Whether every match starts at the start of the text, as far as the form shows. -/
def startsText : Outline → Bool
  | .look l => l == .textStart
  | .capture _ o => o.startsText
  | .sequence a b => a.startsText || (a.greatest? == some 0 && b.startsText)
  | .choice a b => a.startsText && b.startsText
  | .repetition min _ _ o => 0 < min && o.startsText
  | _ => false

/-- Whether every match ends at the end of the text, as far as the form shows. -/
def endsText : Outline → Bool
  | .look l => l == .textFinish
  | .capture _ o => o.endsText
  | .sequence a b => b.endsText || (b.greatest? == some 0 && a.endsText)
  | .choice a b => a.endsText && b.endsText
  | .repetition min _ _ o => 0 < min && o.endsText
  | _ => false

end Outline

end DocTables.Regex
