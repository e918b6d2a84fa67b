/-
# Sets of characters

A pattern tests one character at a time against a set: some ranges, or what set operations make of
others.  A set that ignores case holds every variant of its characters; whether
it holds a character is asked of that character's variants.

The equations of section 2 say what each operation does to membership.
-/
import DocTables.Text.Folding

namespace DocTables.Regex

/-! ## 1. Sets and their members -/

/-- A set of characters. -/
inductive CharSet where
  /-- The characters whose code points lie in one of the ranges. -/
  | ranges (ranges : Text.Ranges)
  /-- The characters of a set and all that differ from one of them only in case. -/
  | folded (set : CharSet)
  /-- The same for the letters `A` to `Z` alone. -/
  | asciiFolded (set : CharSet)
  | complement (set : CharSet)
  | union (a b : CharSet)
  | inter (a b : CharSet)
  | diff (a b : CharSet)
  | symmDiff (a b : CharSet)
deriving Repr, DecidableEq

namespace CharSet

/-- The set of no characters. -/
def none : CharSet := .ranges []

/-- The set of one character. -/
def single (c : Char) : CharSet := .ranges [(c.toNat, c.toNat)]

/-- The character itself and, for a letter from `A` to `Z`, the letter of the other case. -/
def asciiVariants (c : Char) : List Char := [c, c.toLower, c.toUpper]

/-- Whether a character belongs to the set. -/
def contains : CharSet → Char → Bool
  | .ranges rs, c => rs.has c.toNat
  | .folded s, c => (Text.variants c).any s.contains
  | .asciiFolded s, c => (asciiVariants c).any s.contains
  | .complement s, c => !s.contains c
  | .union a b, c => a.contains c || b.contains c
  | .inter a b, c => a.contains c && b.contains c
  | .diff a b, c => a.contains c && !b.contains c
  | .symmDiff a b, c => a.contains c != b.contains c

/-! ## 2. What the operations do to membership -/

theorem contains_single (a c : Char) : (single a).contains c = (c == a) := by
  rw [Bool.eq_iff_iff, beq_iff_eq]
  simp only [single, contains, Text.Ranges.has, List.any_cons, List.any_nil, Bool.or_false,
    Bool.and_eq_true, decide_eq_true_eq]
  constructor
  · rintro ⟨h1, h2⟩
    exact Char.toNat_inj.1 (Nat.le_antisymm h2 h1)
  · rintro rfl
    exact ⟨Nat.le_refl _, Nat.le_refl _⟩

@[simp] theorem contains_complement (s : CharSet) (c : Char) :
    s.complement.contains c = !s.contains c := rfl

/-! ## 3. The ranges of a set -/

/-- The set of all characters. -/
def all : CharSet := .ranges [(0, Text.Ranges.lastCode)]

/-- The letters from `A` to `Z` among the ranges in the other case, and the other way round. -/
def asciiSwapped (rs : Text.Ranges) : Text.Ranges :=
  (rs.inter [(0x41, 0x5A)]).map (fun r => (r.1 + 0x20, r.2 + 0x20)) ++
    (rs.inter [(0x61, 0x7A)]).map fun r => (r.1 - 0x20, r.2 - 0x20)

/-- The code points of the set, as ranges in normal form. -/
def codes : CharSet → Text.Ranges
  | .ranges rs => rs.normal
  | .folded s => Text.foldedRanges s.codes
  | .asciiFolded s => s.codes.union (asciiSwapped s.codes)
  | .complement s => s.codes.outside
  | .union a b => a.codes.union b.codes
  | .inter a b => a.codes.inter b.codes
  | .diff a b => a.codes.without b.codes
  | .symmDiff a b => (a.codes.without b.codes).union (b.codes.without a.codes)

/-- The union of sets. -/
def unionOf : List CharSet → CharSet
  | [] => none
  | [s] => s
  | s :: rest => s.union (unionOf rest)

end CharSet

end DocTables.Regex
