/-
# Programs of a matching machine

An expression is turned into a list of instructions that stands at a known address.  An instruction
leads to the next one unless it names its successors; of two successors the first is preferred.  The
code of an expression starts with its first instruction, and whoever gets past its last one has
matched the expression.
-/
import DocTables.Regex.Expr

namespace DocTables.Regex

/-- An instruction. -/
inductive Instr where
  /-- Take a character of the set. -/
  | set (set : CharSet)
  /-- Go on if the condition holds here. -/
  | look (look : Look)
  /-- Note the place under a number. -/
  | save (slot : Nat)
  | jump (target : Nat)
  | fork (first second : Nat)
  /-- The whole expression has matched. -/
  | accept
deriving Repr, DecidableEq

/-- Go on into a repetition at `inside` or past it at `outside`, which comes first if the repetition
is not greedy. -/
def Instr.branch (greedy : Bool) (inside outside : Nat) : Instr :=
  if greedy then .fork inside outside else .fork outside inside

namespace Expr

/-- The number of instructions. -/
def size : Expr → Nat
  | .empty => 0
  | .set _ => 1
  | .look _ => 1
  | .group none e => e.size
  | .group (some _) e => e.size + 2
  | .concat a b => a.size + b.size
  | .alternate a b => a.size + b.size + 2
  | .repetition 0 none _ e => e.size + 2
  | .repetition (min + 1) none _ e => (min + 1) * e.size + 1
  | .repetition min (some max) _ e => min * e.size + (max - min) * (e.size + 1)

/-- Code repeated at successive addresses, each copy `size` instructions long. -/
def copies (code : Nat → List Instr) (size : Nat) : Nat → Nat → List Instr
  | _, 0 => []
  | base, n + 1 => code base ++ copies code size (base + size) n

/-- Copies of code, in front of each of which the repetition can be left for `finish`. -/
def options (greedy : Bool) (code : Nat → List Instr) (size finish : Nat) : Nat → Nat → List Instr
  | _, 0 => []
  | base, n + 1 =>
    .branch greedy (base + 1) finish :: code (base + 1) ++
      options greedy code size finish (base + size + 1) n

/-- The instructions of an expression at an address.

A repetition without an end returns to its start.  If its body can match without taking a character,
the choice to leave comes after the body has been tried, so that a round that takes nothing is
preferred to no round. -/
def code (base : Nat) : Expr → List Instr
  | .empty => []
  | .set s => [.set s]
  | .look l => [.look l]
  | .group none e => code base e
  | .group (some index) e => .save (2 * index) :: code (base + 1) e ++ [.save (2 * index + 1)]
  | .concat a b => code base a ++ code (base + a.size) b
  | .alternate a b =>
    let second := base + a.size + 2
    .fork (base + 1) second :: code (base + 1) a ++
      .jump (second + b.size) :: code second b
  | .repetition 0 none greedy e =>
    let finish := base + e.size + 2
    if e.nullable then
      .branch greedy (base + 1) finish :: code (base + 1) e ++ [.branch greedy (base + 1) finish]
    else .branch greedy (base + 1) finish :: code (base + 1) e ++ [.jump base]
  | .repetition (min + 1) none greedy e =>
    let last := base + min * e.size
    copies (fun b => code b e) e.size base (min + 1) ++
      [.branch greedy last (last + e.size + 1)]
  | .repetition min (some max) greedy e =>
    let optional := base + min * e.size
    let finish := optional + (max - min) * (e.size + 1)
    copies (fun b => code b e) e.size base min ++
      options greedy (fun b => code b e) e.size finish optional (max - min)

/-! ## The code has the stated size -/

theorem length_copies {code : Nat → List Instr} {size : Nat} (h : ∀ b, (code b).length = size)
    (base n : Nat) : (copies code size base n).length = n * size := by
  induction n generalizing base with
  | zero => simp [copies]
  | succ n ih => simp [copies, h, ih, Nat.succ_mul, Nat.add_comm]

theorem length_options {greedy : Bool} {code : Nat → List Instr} {size : Nat}
    (h : ∀ b, (code b).length = size) (finish base n : Nat) :
    (options greedy code size finish base n).length = n * (size + 1) := by
  induction n generalizing base with
  | zero => simp [options]
  | succ n ih => simp [options, h, ih, Nat.succ_mul]; omega

/-- The code of an expression is as long as its size says, wherever it stands. -/
theorem length_code (e : Expr) (base : Nat) : (e.code base).length = e.size := by
  induction e generalizing base with
  | empty => rfl
  | set => rfl
  | look => rfl
  | group index e ih => cases index <;> simp [code, size, ih]
  | concat a b iha ihb => simp [code, size, iha, ihb]
  | alternate a b iha ihb => simp [code, size, iha, ihb]; omega
  | repetition min max greedy e ih =>
    cases max with
    | none =>
      cases min with
      | zero =>
        simp only [code, size]
        split <;> simp [ih]
      | succ min => simp [code, size, length_copies ih]
    | some max => simp [code, size, length_copies ih, length_options ih]

end Expr

/-- A program: the code of an expression and an instruction that accepts. -/
structure Program where
  code : Array Instr

/-- The program of an expression. -/
def Program.ofExpr (e : Expr) : Program := ⟨(e.code 0 ++ [Instr.accept]).toArray⟩

end DocTables.Regex
