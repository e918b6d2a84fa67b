/-
# The whole name has to match

The regular expression of a template is its text between anchors.  The anchors bind more strongly
than a bar between alternatives: the first belongs to the first alternative of the text, the last to
the last, and what stands between them is free on both sides.  So a template whose text has
alternatives outside groups accepts names of which only a part matches (`not_isMatch_whole`); in just
which way is said by `isMatch_alternatives_iff`.

Without such alternatives the whole name has to match, and it is enough that it does
(`isMatch_whole_iff`): if the text is a regular expression on its own, does not make the anchors match
at lines, and ends where a comment cannot take the last anchor.
-/
import Mathlib
import DocTables.Pattern
import DocTables.Proofs.Regex.Anchored

namespace DocTables

open Regex (Reader)

/-! ## 1. The text of a template -/

namespace Template

/-- The text of a template as a regular expression, without the anchors around it. -/
def body (pieces : List Piece) : List Char :=
  pieces.flatMap fun
    | .literal c => [c]
    | .placeholder name => "(?P<".toList ++ name.toList ++ '>' :: placeholderSource ++ [')']

/-- What the reader comes to over the text of a template on its own. -/
def reading? (template : String) : Option Reader :=
  Reader.readAll ((body (pieces template)).length + 1) .start (body (pieces template))

/-- The text of a template as one regular expression that the anchors enclose as a whole: it has no
alternatives outside groups, does not make the anchors match at lines, and ends where no comment can
take an anchor. -/
def enclosed? (template : String) : Option Regex.Expr := do
  let r ← reading? template
  if r.outer.isEmpty && r.level.branches.isEmpty && !r.flags.multiLine && !r.flags.spaced then
    some r.level.body.expr
  else none

theorem enclosed?_eq_some_iff {template : String} {e : Regex.Expr} :
    enclosed? template = some e ↔ ∃ r, reading? template = some r ∧ r.outer = [] ∧
      r.level.branches = [] ∧ r.flags.multiLine = false ∧ r.flags.spaced = false ∧
      e = r.level.body.expr := by
  constructor
  · intro h
    obtain ⟨r, hread, h⟩ := Option.bind_eq_some_iff.mp h
    split at h
    · rename_i enclosed
      simp only [Bool.and_eq_true, List.isEmpty_iff, Bool.not_eq_true'] at enclosed
      obtain ⟨⟨⟨closed, sole⟩, oneLine⟩, uncommented⟩ := enclosed
      exact ⟨r, hread, closed, sole, oneLine, uncommented, (Option.some.inj h).symm⟩
    · cases h
  · rintro ⟨r, hread, closed, sole, oneLine, uncommented, rfl⟩
    refine Option.bind_eq_some_iff.mpr ⟨r, hread, if_pos ?_⟩
    simp only [closed, sole, oneLine, uncommented]
    rfl

end Template

namespace Regex

theorem ofText?_eq_some_iff {source : List Char} {regex : Regex} :
    ofText? source = some regex ↔ ∃ parsed, parse? source = some parsed ∧
      parsed.expr.fits = true ∧ regex = ⟨.ofExpr parsed.expr, parsed.names⟩ := by
  constructor
  · intro h
    obtain ⟨parsed, hparse, h⟩ := Option.bind_eq_some_iff.mp h
    split at h
    · rename_i fits
      exact ⟨parsed, hparse, fits, (Option.some.inj h).symm⟩
    · cases h
  · rintro ⟨parsed, hparse, fits, rfl⟩
    exact Option.bind_eq_some_iff.mpr ⟨parsed, hparse, if_pos fits⟩

theorem parse?_eq_some_iff {source : List Char} {parsed : Parsed} :
    parse? source = some parsed ↔
      ∃ r, Reader.readAll (source.length + 1) .start source = some r ∧ r.outer = [] ∧
        r.level.body.height ≤ Reader.maxHeight ∧ parsed = ⟨r.level.body.expr, r.names⟩ := by
  constructor
  · intro h
    obtain ⟨r, hread, h⟩ := Option.bind_eq_some_iff.mp h
    dsimp only at h
    split at h
    · rename_i accepted
      rw [Bool.and_eq_true, List.isEmpty_iff, decide_eq_true_eq] at accepted
      exact ⟨r, hread, accepted.1, accepted.2, (Option.some.inj h).symm⟩
    · cases h
  · rintro ⟨r, hread, closed, shallow, rfl⟩
    refine Option.bind_eq_some_iff.mpr ⟨r, hread, if_pos ?_⟩
    rw [Bool.and_eq_true, List.isEmpty_iff, decide_eq_true_eq]
    exact ⟨closed, shallow⟩

end Regex

/-! ## 2. What a template accepts -/

namespace Pattern

variable {template : String} {regex : Regex}

theorem isMatch_ofTemplate (compiles : Regex.ofText? (Template.source (Template.pieces template)) =
    some regex) (name : String) : (ofTemplate template).isMatch name = regex.isMatch name := by
  simp only [ofTemplate, compiles]
  rfl

/-- **What a template accepts.**  One of the alternatives of its text matches a stretch of the name;
for the first alternative it starts with the name, and for the last it ends where the anchor holds.
-/
theorem isMatch_alternatives_iff
    (compiles : Regex.ofText? (Template.source (Template.pieces template)) = some regex)
    {r : Reader} (reads : Template.reading? template = some r) (closed : r.outer = [])
    (uncommented : r.flags.spaced = false) (name : String) :
    (ofTemplate template).isMatch name = true ↔
      ∃ i j, i ≤ name.toList.toArray.size ∧ ∃ before e after,
        r.level.alternatives = before ++ e :: after ∧ e.Matches name.toList.toArray i j ∧
          (before = [] → i = 0) ∧
          (after = [] → (Reader.anchor r.flags false).holdsAt name.toList.toArray j = true) := by
  obtain ⟨parsed, hparse, -, rfl⟩ := Regex.ofText?_eq_some_iff.mp compiles
  obtain ⟨s, hread, -, -, rfl⟩ := Regex.parse?_eq_some_iff.mp hparse
  obtain ⟨n, -, hbody⟩ := Reader.readAll_eq_some_iff.mp reads
  obtain ⟨m, -, hsource⟩ := Reader.readAll_eq_some_iff.mp hread
  obtain ⟨r', hr', hanchored⟩ := Reader.reads_anchored hbody uncommented
  obtain rfl := hsource.unique hanchored
  have hlevel := hr'.level closed
  rw [isMatch_ofTemplate compiles, Regex.isMatch, Regex.find?, Regex.Program.find?_ofExpr_iff]
  constructor
  · rintro ⟨i, hi, j, hj⟩
    exact ⟨i, j, hi, (Regex.Level.matches_anchored_iff hlevel _ hi).mp hj⟩
  · rintro ⟨i, j, hi, h⟩
    exact ⟨i, hi, j, (Regex.Level.matches_anchored_iff hlevel _ hi).mpr h⟩

/-- **The whole name has to match** a template whose text the anchors enclose: a name is accepted
exactly if the text, as one regular expression, matches it from the first to the last character. -/
theorem isMatch_whole_iff
    (compiles : (Regex.ofText? (Template.source (Template.pieces template))).isSome = true)
    {e : Regex.Expr} (enclosed : Template.enclosed? template = some e) (name : String) :
    (ofTemplate template).isMatch name = true ↔
      e.Matches name.toList.toArray 0 name.toList.toArray.size := by
  obtain ⟨regex, compiles⟩ := Option.isSome_iff_exists.mp compiles
  obtain ⟨r, reads, closed, sole, oneLine, uncommented, rfl⟩ :=
    Template.enclosed?_eq_some_iff.mp enclosed
  have hfinish : Reader.anchor r.flags false = .textFinish := by
    simp [Reader.anchor, oneLine]
  rw [isMatch_alternatives_iff compiles reads closed uncommented,
    Regex.Level.alternatives_of_sole sole, hfinish]
  constructor
  · rintro ⟨i, j, hi, before, e, after, heq, hmatch, hstart, hend⟩
    obtain ⟨rfl, rfl, rfl⟩ : before = [] ∧ e = r.level.body.expr ∧ after = [] := by
      cases before with
      | nil =>
        obtain ⟨rfl, htail⟩ := List.cons.inj heq
        exact ⟨rfl, rfl, htail.symm⟩
      | cons b before => simp at heq
    obtain rfl := hstart rfl
    have hj := hmatch.le_size (Nat.zero_le _)
    have hj' := (Regex.Look.textFinish_holdsAt_iff j).mp (hend rfl)
    rwa [Nat.le_antisymm hj hj'] at hmatch
  · intro h
    exact ⟨0, _, Nat.zero_le _, [], _, [], rfl, h, fun _ => rfl,
      fun _ => (Regex.Look.textFinish_holdsAt_iff _).mpr (Nat.le_refl _)⟩

/-- Alternatives in a group are enclosed: `bX7` matches as a whole, and `bX7-` does not. -/
theorem isMatch_whole_grouped :
    ∃ e, (Regex.ofText? (Template.source (Template.pieces "(a|b)x\x7b\x7bt\x7d\x7d"))).isSome = true ∧
      Template.enclosed? "(a|b)x\x7b\x7bt\x7d\x7d" = some e ∧
      e.Matches "bX7".toList.toArray 0 3 ∧ ¬e.Matches "bX7-".toList.toArray 0 4 := by
  obtain ⟨e, enclosed⟩ : ∃ e, Template.enclosed? "(a|b)x\x7b\x7bt\x7d\x7d" = some e :=
    Option.isSome_iff_exists.mp (by decide +kernel)
  obtain ⟨compiles, here, beyond⟩ : (Regex.ofText? (Template.source
      (Template.pieces "(a|b)x\x7b\x7bt\x7d\x7d"))).isSome = true ∧
        (ofTemplate "(a|b)x\x7b\x7bt\x7d\x7d").isMatch "bX7" = true ∧
        (ofTemplate "(a|b)x\x7b\x7bt\x7d\x7d").isMatch "bX7-" = false := by decide +kernel
  refine ⟨e, compiles, enclosed, (isMatch_whole_iff compiles enclosed "bX7").mp here, ?_⟩
  rw [show (4 : Nat) = "bX7-".toList.toArray.size from by decide,
    ← isMatch_whole_iff compiles enclosed "bX7-", beyond]
  exact Bool.false_ne_true

/-- **Alternatives outside groups are not enclosed.**  The template `a|b` accepts `ax`, of which it
matches a part only. -/
theorem not_isMatch_whole :
    ∃ parsed, Regex.parse? (Template.body (Template.pieces "a|b")) = some parsed ∧
      (Regex.ofText? (Template.source (Template.pieces "a|b"))).isSome = true ∧
      (ofTemplate "a|b").isMatch "ax" = true ∧ ¬parsed.expr.Matches "ax".toList.toArray 0 2 := by
  have single (c : Char) : ¬(Regex.Expr.set (.folded (.single c))).Matches "ax".toList.toArray 0 2 := by
    rintro ⟨hj, -⟩
    cases hj
  refine ⟨⟨.alternate (.set (.folded (.single 'a'))) (.set (.folded (.single 'b'))), []⟩,
    by cbv, by decide +kernel, by decide +kernel, ?_⟩
  rintro (h | h)
  · exact single 'a' h
  · exact single 'b' h

end Pattern

end DocTables
