/-
# Searching a text

The machine follows a program through a text and tries the preferred way first.  What is left to try
waits on a stack.  A way through an instruction at a place that has been there before is given up:
it either failed then or leads in a circle now.  So each pair of an instruction and a place is
worked on once, which also bounds the number of steps.

The first way that reaches acceptance is the match, with the places its groups have noted.
-/
import DocTables.Regex.Program

namespace DocTables.Regex

/-- The places noted under numbers, the last first. -/
abbrev Notes := List (Nat × Nat)

/-- A way through the program: the next instruction, the place in the text and what has been noted.
-/
structure Thread where
  pc : Nat
  pos : Nat
  notes : Notes
deriving Repr, DecidableEq

/-- The instructions and places that have been worked on: for every instruction a number whose bits
are the places. -/
structure Marks where
  rows : Array Nat

namespace Marks

/-- No marks, for a program of the given size. -/
def empty (size : Nat) : Marks := ⟨Array.replicate size 0⟩

/-- Whether an instruction has been worked on at a place. -/
def has (m : Marks) (pc pos : Nat) : Bool := (m.rows.getD pc 0).testBit pos

/-- Mark an instruction at a place. -/
def add (m : Marks) (pc pos : Nat) : Marks := ⟨m.rows.modify pc (· ||| 1 <<< pos)⟩

end Marks

/-- What becomes of a thread after one instruction. -/
inductive Progress where
  | accept
  /-- The threads it goes on as, the preferred one first. -/
  | threads (next : List Thread)
deriving Repr, DecidableEq

/-- Whether a condition holds at a place of a text. -/
def Look.holdsAt (l : Look) (text : Array Char) (pos : Nat) : Bool :=
  l.holds (if pos = 0 then none else text[pos - 1]?) text[pos]?

/-- Carry out the next instruction of a thread. -/
def Program.step (p : Program) (text : Array Char) (t : Thread) : Progress :=
  match p.code[t.pc]? with
  | none => .threads []
  | some .accept => .accept
  | some (.set s) =>
    match text[t.pos]? with
    | some c => .threads (if s.contains c then [⟨t.pc + 1, t.pos + 1, t.notes⟩] else [])
    | none => .threads []
  | some (.look l) => .threads (if l.holdsAt text t.pos then [{ t with pc := t.pc + 1 }] else [])
  | some (.save slot) => .threads [⟨t.pc + 1, t.pos, (slot, t.pos) :: t.notes⟩]
  | some (.jump target) => .threads [{ t with pc := target }]
  | some (.fork first second) => .threads [{ t with pc := first }, { t with pc := second }]

/-- Work on a stack of threads until one is accepted. -/
def Program.run (p : Program) (text : Array Char) : Nat → Marks → List Thread → Option Notes
  | 0, _, _ => none
  | _ + 1, _, [] => none
  | fuel + 1, marks, t :: rest =>
    if marks.has t.pc t.pos then p.run text fuel marks rest
    else
      match p.step text t with
      | .accept => some t.notes
      | .threads next => p.run text fuel (marks.add t.pc t.pos) (next ++ rest)

/-- The number of steps that suffice: every pair of an instruction and a place is worked on at most
once and puts at most two threads on the stack. -/
def Program.steps (p : Program) (text : Array Char) : Nat :=
  2 * ((p.code.size + 1) * (text.size + 1)) + 2

/-- The match that starts at a place. -/
def Program.matchAt (p : Program) (text : Array Char) (start : Nat) : Option Notes :=
  p.run text (p.steps text) (.empty p.code.size) [⟨0, start, []⟩]

/-- The leftmost match. -/
def Program.find? (p : Program) (text : Array Char) : Option Notes :=
  (List.range (text.size + 1)).findSome? (p.matchAt text)

/-- The stretch of text that a group has matched. -/
def Notes.group? (notes : Notes) (text : Array Char) (index : Nat) : Option String := do
  let start ← notes.lookup (2 * index)
  let finish ← notes.lookup (2 * index + 1)
  return String.ofList (text.extract start finish).toList

end DocTables.Regex
