/-
# Patterns that set no switches

A pattern is read with the switches it starts with, up to a group that sets some.  Until then no set
that is read tells the case of letters (`IgnoresCase.step`), so a pattern that sets no switches has no
such set at all (`Reads.ignoresCase`).

A group can set switches only if the question mark behind its parenthesis is followed by the letter of
a switch or by a dash.  As the reader goes forward in the text, a text without such a place sets none
(`setsSwitches_eq_false`).
-/
import Mathlib
import DocTables.Proofs.Regex.Anchored
import DocTables.Proofs.Regex.Case
import DocTables.Proofs.Regex.Forward

namespace DocTables.Regex

/-! ## 1. Expressions that are put together -/

theorem Expr.ignoresCase_concatOf : ∀ {es : List Expr}, (∀ e ∈ es, e.IgnoresCase) →
    (concatOf es).IgnoresCase
  | [], _ => trivial
  | [_], h => h _ List.mem_cons_self
  | _ :: _ :: _, h => ⟨h _ List.mem_cons_self,
      ignoresCase_concatOf fun e he => h e (List.mem_cons_of_mem _ he)⟩

theorem Expr.ignoresCase_alternateOf : ∀ {es : List Expr}, (∀ e ∈ es, e.IgnoresCase) →
    (alternateOf es).IgnoresCase
  | [], _ => trivial
  | [_], h => h _ List.mem_cons_self
  | _ :: _ :: _, h => ⟨h _ List.mem_cons_self,
      ignoresCase_alternateOf fun e he => h e (List.mem_cons_of_mem _ he)⟩

theorem Expr.IgnoresCase.repeated {e : Expr} (h : e.IgnoresCase) (min : Nat) (max : Option Nat)
    (greedy : Bool) : (e.repeated min max greedy).IgnoresCase := by
  unfold Expr.repeated
  split
  · trivial
  · split
    split <;> exact h

/-! ## 2. What one part stands for -/

/-- What an escape stands for ignores case, if it is a set. -/
def Atom.IgnoresCase : Atom → Prop
  | .set s => s.IgnoresCase
  | _ => True

theorem ignoresCase_readCode {f : Flags} {width : Nat} {cs rest : List Char} {atom : Atom}
    (h : readCode f width cs = some (atom, rest)) : atom.IgnoresCase := by
  unfold readCode at h
  split at h
  · obtain ⟨_, -, h⟩ := Option.bind_eq_some_iff.mp h
    obtain ⟨_, -, h⟩ := Option.bind_eq_some_iff.mp h
    cases h
    trivial
  · obtain ⟨_, -, h⟩ := Option.bind_eq_some_iff.mp h
    obtain ⟨_, -, h⟩ := Option.bind_eq_some_iff.mp h
    cases h
    trivial

theorem ignoresCase_readProperty {negated : Bool} {cs rest : List Char} {atom : Atom}
    (h : readProperty .initial negated cs = some (atom, rest)) : atom.IgnoresCase := by
  have named {name more : List Char} (h : ((ClassName.ranges? name).bind fun found =>
      (Flags.initial.negate? (negated != found.1) (Flags.initial.fold (.ranges found.2))).bind fun set =>
        some (Atom.set set, more)) = some (atom, rest)) : atom.IgnoresCase := by
    obtain ⟨_, -, h⟩ := Option.bind_eq_some_iff.mp h
    obtain ⟨set, hset, heq⟩ := Option.bind_eq_some_iff.mp h
    cases heq
    exact ignoresCase_negate hset
  unfold readProperty at h
  rw [if_neg (by decide)] at h
  dsimp only at h
  split at h
  · cases h
  · cases h
  · obtain ⟨_, -, h⟩ := Option.bind_eq_some_iff.mp h
    exact named h
  · exact named h

theorem ignoresCase_readEscape {cs rest : List Char} {atom : Atom}
    (h : readEscape .initial cs = some (atom, rest)) : atom.IgnoresCase := by
  cases cs with
  | nil => cases h
  | cons c cs =>
    have plain {q : Atom × List Char} (hq : q.1.IgnoresCase) (h : some q = some (atom, rest)) :
        atom.IgnoresCase := by
      cases h
      exact hq
    have chosen {α : Type} {o : Option α} {g : α → Atom × List Char} (hg : ∀ a, (g a).1.IgnoresCase)
        (h : o.map g = some (atom, rest)) : atom.IgnoresCase := by
      obtain ⟨a, -, heq⟩ := Option.map_eq_some_iff.mp h
      exact plain (hg a) (congrArg some heq)
    revert h
    rw [readEscape]
    refine of_ite_eq_some ignoresCase_readCode ?_
    refine of_ite_eq_some ignoresCase_readCode ?_
    refine of_ite_eq_some ignoresCase_readCode ?_
    refine of_ite_eq_some ignoresCase_readProperty ?_
    refine of_ite_eq_some (plain (ignoresCase_shortClass c)) ?_
    refine of_ite_eq_some (fun h => ?_) ?_
    · cases h
      exact (ignoresCase_shortClass c.toLower).complement
    -- what is left are characters and conditions
    refine of_ite_eq_some (plain trivial) ?_
    refine of_ite_eq_some (plain trivial) ?_
    refine of_ite_eq_some (plain trivial) ?_
    refine of_ite_eq_some (chosen fun _ => trivial) ?_
    refine of_ite_eq_some (plain trivial) ?_
    refine of_ite_eq_some (plain trivial) ?_
    exact of_ite_eq_some (plain trivial) (chosen fun _ => trivial)

theorem ignoresCase_close {b : Bracket} {m : Member} (h : b.close? .initial = some m) :
    m.set.IgnoresCase := by
  obtain ⟨set, hset, heq⟩ := Option.bind_eq_some_iff.mp h
  cases heq
  exact ignoresCase_negate hset

/-- What is read as a bracket has been closed as one. -/
theorem exists_close_of_readBrackets {f : Flags} : ∀ {fuel : Nat} {b : Bracket} {outer : List Bracket}
    {cs rest : List Char} {m : Member}, readBrackets f fuel b outer cs = some (m, rest) →
      ∃ b' : Bracket, b'.close? f = some m
  | 0, _, _, _, _, _, h => by cases h
  | fuel + 1, b, outer, cs, rest, m, h => by
    rw [readBrackets] at h
    split at h
    · cases h
    · split at h
      · obtain ⟨_, -, h⟩ := Option.bind_eq_some_iff.mp h
        exact exists_close_of_readBrackets h
      · exact exists_close_of_readBrackets h
    · obtain ⟨closed, hclosed, h⟩ := Option.bind_eq_some_iff.mp h
      cases outer with
      | nil =>
        cases h
        exact ⟨b, hclosed⟩
      | cons b outer => exact exists_close_of_readBrackets h
    · exact exists_close_of_readBrackets h
    · exact exists_close_of_readBrackets h
    · exact exists_close_of_readBrackets h
    · obtain ⟨_, -, h⟩ := Option.bind_eq_some_iff.mp h
      exact exists_close_of_readBrackets h

theorem ignoresCase_readBracket {cs rest : List Char} {m : Member}
    (h : readBracket .initial cs = some (m, rest)) : m.set.IgnoresCase := by
  obtain ⟨b, hclose⟩ := exists_close_of_readBrackets h
  exact ignoresCase_close hclose

/-! ## 3. What keeps the switches of the start -/

/-- A group with the switches of the start around it, and in it no set that tells the case. -/
structure Level.IgnoresCase (l : Level) : Prop where
  outside : l.outside = .initial
  branches : ∀ p ∈ l.branches, p.expr.IgnoresCase
  parts : ∀ p ∈ l.parts, p.expr.IgnoresCase

namespace Level.IgnoresCase

variable {l : Level}

theorem start (opening : Opening) : (Level.start opening .initial).IgnoresCase :=
  ⟨rfl, List.forall_mem_nil _, List.forall_mem_nil _⟩

theorem branch (h : l.IgnoresCase) : l.branch.expr.IgnoresCase := by
  rw [expr_branch]
  refine Expr.ignoresCase_concatOf fun e he => ?_
  obtain ⟨p, hp, rfl⟩ := List.mem_map.mp he
  exact h.parts p (List.mem_reverse.mp hp)

theorem body (h : l.IgnoresCase) : l.body.expr.IgnoresCase := by
  rw [expr_body]
  refine Expr.ignoresCase_alternateOf fun e he => ?_
  obtain ⟨p, hp, rfl⟩ := List.mem_map.mp he
  rcases List.mem_cons.mp (List.mem_reverse.mp hp) with rfl | hp
  · exact h.branch
  · exact h.branches p hp

theorem push (h : l.IgnoresCase) {p : Part} (hp : p.expr.IgnoresCase) :
    Level.IgnoresCase { l with parts := p :: l.parts } :=
  ⟨h.outside, h.branches, List.forall_mem_cons.mpr ⟨hp, h.parts⟩⟩

theorem nextBranch (h : l.IgnoresCase) :
    Level.IgnoresCase { l with branches := l.branch :: l.branches, parts := [] } :=
  ⟨h.outside, List.forall_mem_cons.mpr ⟨h.branch, h.branches⟩, List.forall_mem_nil _⟩

end Level.IgnoresCase

namespace Reader

/-- The switches are those of the start, and no set tells the case. -/
structure IgnoresCase (r : Reader) : Prop where
  flags : r.flags = .initial
  level : r.level.IgnoresCase
  outer : ∀ l ∈ r.outer, l.IgnoresCase

variable {r r' : Reader} {cs rest : List Char}

theorem ignoresCase_start : start.IgnoresCase := ⟨rfl, .start _, List.forall_mem_nil _⟩

namespace IgnoresCase

theorem push (h : r.IgnoresCase) {p : Part} (hp : p.expr.IgnoresCase) : (r.push p).IgnoresCase :=
  ⟨h.flags, h.level.push hp, h.outer⟩

theorem openGroup (h : r.IgnoresCase) (opening : Opening) :
    (r.openGroup opening r.flags).IgnoresCase := by
  refine ⟨h.flags, ?_, List.forall_mem_cons.mpr ⟨h.level, h.outer⟩⟩
  rw [Reader.openGroup, h.flags]
  exact .start opening

theorem closeGroup (h : r.IgnoresCase) (close : r.closeGroup = some r') : r'.IgnoresCase := by
  unfold Reader.closeGroup at close
  split at close
  · cases close
  · rename_i level outer houter
    cases close
    have houter := List.forall_mem_cons.mp (houter ▸ h.outer)
    have around : IgnoresCase { r with flags := r.level.outside, level := level, outer := outer } :=
      ⟨h.level.outside, houter.1, houter.2⟩
    exact around.push h.level.body

theorem nextBranch (h : r.IgnoresCase) : r.nextBranch.IgnoresCase :=
  ⟨h.flags, h.level.nextBranch, h.outer⟩

theorem repeatLast (h : r.IgnoresCase) {min : Nat} {max : Option Nat} {isLazy : Bool}
    (repeated : r.repeatLast min max isLazy = some r') : r'.IgnoresCase := by
  obtain ⟨⟨p, r''⟩, pop, heq⟩ := Option.bind_eq_some_iff.mp repeated
  cases heq
  obtain ⟨-, ps, last, rfl⟩ := pop?_eq_some_iff.mp pop
  have hparts := List.forall_mem_cons.mp (last ▸ h.level.parts)
  have before : IgnoresCase { r with level := { r.level with parts := ps } } :=
    ⟨h.flags, ⟨h.level.outside, h.level.branches, hparts.2⟩, h.outer⟩
  exact before.push (hparts.1.repeated _ _ _)

theorem readCounted (h : r.IgnoresCase) (read : r.readCounted cs = some (r', rest)) :
    r'.IgnoresCase := by
  rw [readCounted_eq] at read
  obtain ⟨_, -, read⟩ := Option.bind_eq_some_iff.mp read
  obtain ⟨_, -, read⟩ := Option.bind_eq_some_iff.mp read
  unfold Reader.endCounted at read
  dsimp only at read
  split at read
  · split at read
    · obtain ⟨r'', repeated, heq⟩ := Option.bind_eq_some_iff.mp read
      cases heq
      exact h.repeatLast repeated
    · cases read
  · cases read

theorem openNamed (h : r.IgnoresCase) (read : r.openNamed cs = some (r', rest)) : r'.IgnoresCase := by
  unfold Reader.openNamed at read
  dsimp only at read
  split at read
  · cases read
  · split at read
    · cases read
      have opened := h.openGroup (.capture (r.groups + 1))
      exact ⟨opened.flags, opened.level, opened.outer⟩
    · cases read

theorem pushChar (h : r.IgnoresCase) (c : Char) : (r.pushChar c).IgnoresCase := by
  unfold Reader.pushChar
  rw [h.flags]
  exact h.push (CharSet.ignoresCase_folded _)

theorem pushAtom (h : r.IgnoresCase) {atom : Atom} (hatom : atom.IgnoresCase)
    (pushed : r.pushAtom atom = some r') : r'.IgnoresCase := by
  cases atom with
  | char c byte =>
    obtain ⟨code, -, rfl⟩ := Option.map_eq_some_iff.mp pushed
    exact h.pushChar code
  | set set =>
    cases pushed
    exact h.push hatom
  | look look =>
    cases pushed
    exact h.push trivial

end IgnoresCase

end Reader

/-! ## 4. Groups that set switches -/

/-- What has stood is kept. -/
theorem Flags.suffix_of_readSwitches : ∀ {cs : List Char} {f g : Flags} {seen seen' rest : List Char},
    f.readSwitches seen cs = some (g, seen', rest) → seen <:+ seen'
  | [], _, _, _, _, _, h => by cases h
  | c :: cs, f, g, seen, seen', rest, h => by
    rw [readSwitches] at h
    split at h
    · split at h
      · cases h
      · cases h
        exact List.suffix_refl _
    · split at h
      · cases h
      · split at h
        · exact (List.suffix_cons c seen).trans (suffix_of_readSwitches h)
        · obtain ⟨g', -, h⟩ := Option.bind_eq_some_iff.mp h
          exact (List.suffix_cons c seen).trans (suffix_of_readSwitches h)

/-- Where no switch stands, none is changed. -/
theorem Flags.eq_of_readSwitches {cs rest : List Char} {f g : Flags}
    (h : f.readSwitches [] cs = some (g, [], rest)) : g = f := by
  have unseen (c : Char) : ¬[c] <:+ ([] : List Char) := by simp
  cases cs with
  | nil => cases h
  | cons c cs =>
    rw [readSwitches] at h
    split at h
    · cases h
      rfl
    · rw [if_neg (by simp)] at h
      split at h
      · exact absurd (suffix_of_readSwitches h) (unseen c)
      · obtain ⟨g', -, h⟩ := Option.bind_eq_some_iff.mp h
        exact absurd (suffix_of_readSwitches h) (unseen c)

/-- The letters of switches, and the dash in front of those to turn off. -/
def Flags.marks : List Char := ['i', 'm', 's', 'U', 'u', 'R', 'x', '-']

theorem Flags.mem_marks_of_set? {f g : Flags} {c : Char} {on : Bool} (h : f.set? c on = some g) :
    c ∈ marks := by
  unfold set? at h
  split at h
  all_goals first | decide | cases h

/-- Where a switch stands, the first character is such a letter or the dash. -/
theorem Flags.mem_marks_of_readSwitches {f g : Flags} {c : Char} {cs seen rest : List Char}
    (h : f.readSwitches [] (c :: cs) = some (g, seen, rest)) (set : seen ≠ []) : c ∈ marks := by
  rw [readSwitches] at h
  split at h
  · cases h
    exact absurd rfl set
  · rw [if_neg (by simp)] at h
    split at h
    · rename_i dash
      rw [beq_iff_eq.mp dash]
      decide
    · obtain ⟨g', hset, -⟩ := Option.bind_eq_some_iff.mp h
      exact mem_marks_of_set? hset

namespace Reader

/-- Whether a parenthesis in front of a text is the start of a group that sets switches. -/
def setsSwitches (r : Reader) (cs : List Char) : Bool :=
  match r.flags.skip cs with
  | '?' :: rest => (r.flags.readSwitches [] rest).any fun read => !read.2.1.isEmpty
  | _ => false

variable {r r' : Reader} {cs rest : List Char}

theorem IgnoresCase.readOpening (h : r.IgnoresCase) (unset : r.setsSwitches cs = false)
    (read : r.readOpening cs = some (r', rest)) : r'.IgnoresCase := by
  have opens := opens_of_readOpening read
  unfold setsSwitches at unset
  generalize r.flags.skip cs = found at opens unset
  cases opens with
  | capture unmarked =>
    have opened := h.openGroup (.capture (r.groups + 1))
    exact ⟨opened.flags, opened.level, opened.outer⟩
  | @switches c cs rest r' read unnamed here done =>
    obtain ⟨flags, seen, more⟩ := read
    obtain rfl : seen = [] := by
      simpa [here] using unset
    obtain rfl := Flags.eq_of_readSwitches here
    unfold afterSwitches at done
    split at done
    · rename_i heq
      cases heq
      cases done
    · rename_i heq
      cases heq
      cases done
      exact h.openGroup .plain
  | named unlooked here => exact h.openNamed here
  | longNamed here => exact h.openNamed here

/-- **The step.**  What is read next without setting switches ignores case. -/
theorem IgnoresCase.step (h : r.IgnoresCase) {c : Char}
    (unset : c = '(' → r.setsSwitches cs = false) (here : r.step c cs = some (r', rest)) :
    r'.IgnoresCase := by
  have repeated {min : Nat} {max : Option Nat}
      (here : (r.repeatLast min max (scanLazy cs).1).map (fun r => (r, (scanLazy cs).2)) =
        some (r', rest)) : r'.IgnoresCase := by
    obtain ⟨r'', repeated, heq⟩ := Option.map_eq_some_iff.mp here
    cases heq
    exact h.repeatLast repeated
  unfold Reader.step at here
  rw [h.flags] at here
  dsimp only at here
  split at here
  · exact h.readOpening (unset rfl) here
  · obtain ⟨r'', close, heq⟩ := Option.map_eq_some_iff.mp here
    cases heq
    exact h.closeGroup close
  · cases here
    exact h.nextBranch
  · obtain ⟨⟨m, rs⟩, hbracket, heq⟩ := Option.bind_eq_some_iff.mp here
    cases heq
    exact h.push (ignoresCase_readBracket hbracket)
  · exact repeated here
  · exact repeated here
  · exact repeated here
  · exact h.readCounted here
  · obtain ⟨⟨atom, rs⟩, hatom, here⟩ := Option.bind_eq_some_iff.mp here
    obtain ⟨r'', pushed, heq⟩ := Option.bind_eq_some_iff.mp here
    cases heq
    exact h.pushAtom (ignoresCase_readEscape hatom) pushed
  · obtain ⟨set, hset, heq⟩ := Option.map_eq_some_iff.mp here
    cases heq
    exact h.push (ignoresCase_dot hset)
  · cases here
    exact h.push trivial
  · cases here
    exact h.push trivial
  · cases here
    exact h.pushChar _

/-- Whether switches are set anywhere in a text, up to where it is refused. -/
def setsSwitchesIn : Nat → Reader → List Char → Bool
  | 0, _, _ => false
  | fuel + 1, r, cs =>
    match r.flags.skip cs with
    | [] => false
    | c :: rest =>
      c == '(' && r.setsSwitches rest ||
        (r.step c rest).any fun next => setsSwitchesIn fuel next.1 next.2

/-- **The run.**  A text that sets no switches is read with those of the start, and no set tells the
case. -/
theorem Reads.ignoresCase {n : Nat} (reads : Reads n r cs r') (h : r.IgnoresCase) {fuel : Nat}
    (enough : n ≤ fuel) (unset : setsSwitchesIn fuel r cs = false) : r'.IgnoresCase := by
  induction reads generalizing fuel with
  | done skip => exact h
  | step skip here later ih =>
    obtain ⟨fuel, rfl⟩ : ∃ k, fuel = k + 1 := ⟨fuel - 1, by omega⟩
    rw [setsSwitchesIn, skip] at unset
    simp only [here, Bool.or_eq_false_iff, Bool.and_eq_false_imp, beq_iff_eq, Option.any_some] at unset
    exact ih (h.step unset.1 here) (Nat.le_of_succ_le_succ enough) unset.2

theorem setsSwitches_of_plain (hflags : r.flags = .initial)
    (plain : ∀ c ∈ Flags.marks, ¬['?', c] <+: cs) : r.setsSwitches cs = false := by
  have hskip : r.flags.skip cs = cs := by
    rw [hflags]
    rfl
  unfold setsSwitches
  rw [hskip]
  split
  · rename_i rest
    cases hread : r.flags.readSwitches [] rest with
    | none => rfl
    | some read =>
      obtain ⟨g, seen, more⟩ := read
      cases seen with
      | nil => rfl
      | cons s seen =>
        obtain ⟨c, rest, rfl⟩ : ∃ c cs, rest = c :: cs := by
          cases rest with
          | nil => cases hread
          | cons c rest => exact ⟨c, rest, rfl⟩
        exact absurd ⟨rest, rfl⟩ (plain c (Flags.mem_marks_of_readSwitches hread (List.cons_ne_nil _ _)))
  · rfl

/-- **A text sets no switches** if no question mark behind a parenthesis is followed by the letter of
a switch or by a dash. -/
theorem setsSwitchesIn_eq_false : ∀ {fuel : Nat} {r : Reader} {cs : List Char}, r.IgnoresCase →
    (∀ c ∈ Flags.marks, ¬['(', '?', c] <:+: cs) → setsSwitchesIn fuel r cs = false
  | 0, _, _, _, _ => rfl
  | fuel + 1, r, cs, h, plain => by
    have hskip : r.flags.skip cs = cs := by
      rw [h.flags]
      rfl
    rw [setsSwitchesIn, hskip]
    cases cs with
    | nil => rfl
    | cons c rest =>
      have unset (hc : c = '(') : r.setsSwitches rest = false := by
        refine setsSwitches_of_plain h.flags fun d hd hmark => plain d hd ?_
        rw [hc]
        exact (List.prefix_cons_inj '(' |>.mpr hmark).isInfix
      simp only [Bool.or_eq_false_iff, Bool.and_eq_false_imp, beq_iff_eq]
      refine ⟨unset, ?_⟩
      cases here : r.step c rest with
      | none => rfl
      | some next =>
        have forward : next.2 <:+: c :: rest :=
          (step_suffix here).isInfix.trans (List.suffix_cons c rest).isInfix
        exact setsSwitchesIn_eq_false (h.step unset here) fun d hd hin => plain d hd (hin.trans forward)

end Reader

/-- Whether switches are set in the text of a pattern. -/
def setsSwitches (source : List Char) : Bool :=
  Reader.setsSwitchesIn (source.length + 1) .start source

theorem setsSwitches_eq_false {source : List Char}
    (plain : ∀ c ∈ Flags.marks, ¬['(', '?', c] <:+: source) : setsSwitches source = false :=
  Reader.setsSwitchesIn_eq_false Reader.ignoresCase_start plain

end DocTables.Regex
