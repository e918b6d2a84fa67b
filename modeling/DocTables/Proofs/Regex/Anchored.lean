/-
# An anchor in front of a pattern

Where an anchor stands in front of a text, it is the first part of the first alternative outside all
groups, and of no other.  The parts that come later are read as they are without it: nothing looks at
the first part, for where a repetition asks for the part before it, the text alone would have been
refused.  So the reader comes through the text in the same steps, in a state that differs in this
first alternative only (`Reader.FromStart`, `step_fromStart`).

With an anchor at the end as well, which belongs to the last alternative, the whole matches what the
first alternative matches from the start of a text, the last one up to its end, and the others match
anywhere (`matches_anchored_iff`).
-/
import Mathlib
import DocTables.Proofs.Regex.Matches
import DocTables.Proofs.Regex.Reading

namespace DocTables.Regex

/-! ## 1. The first alternative -/

/-- The anchor at the start of a text. -/
def Part.start : Part := ⟨.look .textStart, 0, true⟩

/-- One part matches what the other does, at the start of a text only. -/
def Part.FromStart (p q : Part) : Prop :=
  ∀ (text : Array Char) (i j : Nat), i ≤ text.size →
    (q.expr.Matches text i j ↔ i = 0 ∧ p.expr.Matches text i j)

namespace Level

/-- The alternatives of a group, in order. -/
def alternatives (l : Level) : List Expr := (l.branch :: l.branches).reverse.map (·.expr)

theorem expr_branch (l : Level) : l.branch.expr = .concatOf (l.parts.reverse.map (·.expr)) := by
  unfold branch
  split
  · rename_i h
    rw [h]
    rfl
  · rename_i h
    rw [h]
    rfl
  · rfl

theorem expr_body (l : Level) : l.body.expr = .alternateOf l.alternatives := by
  unfold body alternatives
  split
  · rename_i h
    rw [h]
    rfl
  · rfl

/-- One group differs from the other in an anchor at the start of its first alternative. -/
inductive FromStart : Level → Level → Prop
  /-- The first alternative is still being read. -/
  | first (opening : Opening) (outside : Flags) (parts : List Part) :
      FromStart ⟨opening, outside, [], parts⟩ ⟨opening, outside, [], parts ++ [.start]⟩
  | later {p q : Part} (opening : Opening) (outside : Flags) (branches parts : List Part)
      (finished : p.FromStart q) :
      FromStart ⟨opening, outside, branches ++ [p], parts⟩ ⟨opening, outside, branches ++ [q], parts⟩

variable {l l' : Level}

/-- The anchor stands in front of the other parts. -/
theorem branch_fromStart (opening : Opening) (outside : Flags) (parts : List Part) :
    (branch ⟨opening, outside, [], parts⟩).FromStart
      (branch ⟨opening, outside, [], parts ++ [.start]⟩) := by
  intro text i j hi
  rw [expr_branch, expr_branch]
  simp only [List.reverse_append, List.reverse_singleton, List.singleton_append, List.map_cons]
  rw [Expr.matches_concatOf_cons]
  constructor
  · rintro ⟨k, ⟨rfl, here⟩, hj⟩
    exact ⟨(Look.textStart_holdsAt_iff hi).mp here, hj⟩
  · rintro ⟨here, hj⟩
    exact ⟨i, ⟨rfl, (Look.textStart_holdsAt_iff hi).mpr here⟩, hj⟩

theorem FromStart.push (h : l.FromStart l') (p : Part) :
    FromStart { l with parts := p :: l.parts } { l' with parts := p :: l'.parts } := by
  cases h with
  | first opening outside parts => exact .first opening outside (p :: parts)
  | later opening outside branches parts finished =>
    exact .later opening outside branches (p :: parts) finished

/-- What has been read last is not the anchor. -/
theorem FromStart.pop (h : l.FromStart l') {p : Part} {ps : List Part} (last : l.parts = p :: ps) :
    ∃ ps', l'.parts = p :: ps' ∧ FromStart { l with parts := ps } { l' with parts := ps' } := by
  cases h with
  | first opening outside parts =>
    obtain rfl : parts = p :: ps := last
    exact ⟨_, rfl, .first opening outside ps⟩
  | later opening outside branches parts finished =>
    obtain rfl : parts = p :: ps := last
    exact ⟨_, rfl, .later opening outside branches ps finished⟩

theorem FromStart.nextBranch (h : l.FromStart l') :
    FromStart { l with branches := l.branch :: l.branches, parts := [] }
      { l' with branches := l'.branch :: l'.branches, parts := [] } := by
  cases h with
  | first opening outside parts => exact .later opening outside [] [] (branch_fromStart _ _ parts)
  | later opening outside branches parts finished =>
    exact .later opening outside (_ :: branches) [] finished

end Level

/-! ## 2. The reader -/

namespace Reader

/-- The outermost of the groups that are open differs in an anchor at its start. -/
inductive Outermost : Level → List Level → Level → List Level → Prop
  | inner {l l' : Level} (here : l.FromStart l') : Outermost l [] l' []
  | outer {l l' : Level} (level : Level) (around : List Level) (there : l.FromStart l') :
      Outermost level (around ++ [l]) level (around ++ [l'])

/-- One reader differs from the other in an anchor in front of the text. -/
structure FromStart (r s : Reader) : Prop where
  flags : s.flags = r.flags
  groups : s.groups = r.groups
  names : s.names = r.names
  levels : Outermost r.level r.outer s.level s.outer

variable {r r' s : Reader} {cs rest : List Char}

theorem fromStart_start : FromStart .start (start.push .start) :=
  ⟨rfl, rfl, rfl, .inner (.first _ _ [])⟩

theorem FromStart.push (h : r.FromStart s) (p : Part) : (r.push p).FromStart (s.push p) := by
  refine ⟨h.flags, h.groups, h.names, ?_⟩
  obtain ⟨flags, level, outer, groups, names⟩ := r
  obtain ⟨flags', level', outer', groups', names'⟩ := s
  cases h.levels with
  | inner here => exact .inner (here.push p)
  | outer level around there => exact .outer _ around there

theorem FromStart.withFlags (h : r.FromStart s) (f : Flags) :
    FromStart { r with flags := f } { s with flags := f } := ⟨rfl, h.groups, h.names, h.levels⟩

theorem FromStart.openGroup (h : r.FromStart s) (opening : Opening) (inside : Flags) :
    (r.openGroup opening inside).FromStart (s.openGroup opening inside) := by
  refine ⟨rfl, h.groups, h.names, ?_⟩
  have hflags := h.flags
  obtain ⟨flags, level, outer, groups, names⟩ := r
  obtain ⟨flags', level', outer', groups', names'⟩ := s
  obtain rfl : flags' = flags := hflags
  cases h.levels with
  | inner here => exact .outer _ [] here
  | outer level around there => exact .outer _ (level :: around) there

theorem FromStart.closeGroup (h : r.FromStart s) (close : r.closeGroup = some r') :
    ∃ s', s.closeGroup = some s' ∧ r'.FromStart s' := by
  obtain ⟨flags, level, outer, groups, names⟩ := r
  obtain ⟨flags', level', outer', groups', names'⟩ := s
  obtain ⟨hflags, hgroups, hnames, hlevels⟩ := h
  cases hlevels with
  | inner here => cases close
  | outer level around there =>
    cases around with
    | nil =>
      cases close
      exact ⟨_, rfl, rfl, hgroups, hnames, .inner (there.push _)⟩
    | cons next around =>
      cases close
      exact ⟨_, rfl, rfl, hgroups, hnames, .outer _ around there⟩

theorem FromStart.nextBranch (h : r.FromStart s) : r.nextBranch.FromStart s.nextBranch := by
  refine ⟨h.flags, h.groups, h.names, ?_⟩
  obtain ⟨flags, level, outer, groups, names⟩ := r
  obtain ⟨flags', level', outer', groups', names'⟩ := s
  cases h.levels with
  | inner here => exact .inner here.nextBranch
  | outer level around there => exact .outer _ around there

theorem pop?_eq_some_iff {p : Part} : r.pop? = some (p, r') ↔
    p.repeatable = true ∧ ∃ ps, r.level.parts = p :: ps ∧
      r' = { r with level := { r.level with parts := ps } } := by
  unfold pop?
  cases hparts : r.level.parts with
  | nil => simp
  | cons q ps =>
    by_cases repeatable : q.repeatable = true
    · simp only [repeatable, if_true, Option.some.injEq, Prod.mk.injEq, List.cons.injEq]
      constructor
      · rintro ⟨rfl, rfl⟩
        exact ⟨repeatable, ps, ⟨rfl, rfl⟩, rfl⟩
      · rintro ⟨-, ps', ⟨rfl, rfl⟩, rfl⟩
        exact ⟨rfl, rfl⟩
    · simp only [repeatable, if_false, Bool.false_eq_true, List.cons.injEq, reduceCtorEq, false_iff]
      rintro ⟨hp, ps', ⟨rfl, -⟩, -⟩
      exact repeatable hp

/-- What is repeated is not the anchor: without it, the same part is there. -/
theorem FromStart.pop? (h : r.FromStart s) {p : Part} (pop : r.pop? = some (p, r')) :
    ∃ s', s.pop? = some (p, s') ∧ r'.FromStart s' := by
  obtain ⟨repeatable, ps, last, rfl⟩ := pop?_eq_some_iff.mp pop
  obtain ⟨flags, level, outer, groups, names⟩ := r
  obtain ⟨flags', level', outer', groups', names'⟩ := s
  obtain ⟨hflags, hgroups, hnames, hlevels⟩ := h
  cases hlevels with
  | inner here =>
    obtain ⟨ps', last', here'⟩ := here.pop last
    exact ⟨_, pop?_eq_some_iff.mpr ⟨repeatable, ps', last', rfl⟩, hflags, hgroups, hnames,
      .inner here'⟩
  | outer level around there =>
    exact ⟨_, pop?_eq_some_iff.mpr ⟨repeatable, ps, last, rfl⟩, hflags, hgroups, hnames,
      .outer _ around there⟩

theorem FromStart.repeatLast (h : r.FromStart s) {min : Nat} {max : Option Nat} {isLazy : Bool}
    (repeated : r.repeatLast min max isLazy = some r') :
    ∃ s', s.repeatLast min max isLazy = some s' ∧ r'.FromStart s' := by
  obtain ⟨⟨p, r''⟩, pop, heq⟩ := Option.bind_eq_some_iff.mp repeated
  cases heq
  obtain ⟨s'', pop', h'⟩ := h.pop? pop
  refine ⟨_, Option.bind_eq_some_iff.mpr ⟨_, pop', rfl⟩, ?_⟩
  rw [h'.flags]
  exact h'.push _

theorem FromStart.endCounted (h : r.FromStart s) {min : Nat} {max : Option Nat}
    (ends : r.endCounted min max cs = some (r', rest)) :
    ∃ s', s.endCounted min max cs = some (s', rest) ∧ r'.FromStart s' := by
  unfold Reader.endCounted at ends ⊢
  rw [h.flags]
  split at ends
  · split at ends
    · rename_i bounded
      obtain ⟨r'', repeated, heq⟩ := Option.bind_eq_some_iff.mp ends
      cases heq
      obtain ⟨s', repeated', h'⟩ := h.repeatLast repeated
      exact ⟨s', by simp only [bounded, if_true, repeated', Option.bind_some], h'⟩
    · cases ends
  · cases ends

theorem FromStart.readCounted (h : r.FromStart s) (read : r.readCounted cs = some (r', rest)) :
    ∃ s', s.readCounted cs = some (s', rest) ∧ r'.FromStart s' := by
  rw [readCounted_eq] at read ⊢
  rw [h.flags]
  obtain ⟨min, hmin, read⟩ := Option.bind_eq_some_iff.mp read
  obtain ⟨⟨max, ends⟩, hmax, read⟩ := Option.bind_eq_some_iff.mp read
  obtain ⟨s', read', h'⟩ := h.endCounted read
  exact ⟨s', Option.bind_eq_some_iff.mpr ⟨min, hmin, Option.bind_eq_some_iff.mpr ⟨_, hmax, read'⟩⟩, h'⟩

theorem FromStart.openNamed (h : r.FromStart s) (read : r.openNamed cs = some (r', rest)) :
    ∃ s', s.openNamed cs = some (s', rest) ∧ r'.FromStart s' := by
  unfold Reader.openNamed at read ⊢
  simp only [h.groups, h.names, h.flags] at read ⊢
  split at read
  · cases read
  · split at read
    · rename_i named
      cases read
      have opened := h.openGroup (.capture (r.groups + 1)) r.flags
      exact ⟨_, if_pos named, opened.flags, rfl, rfl, opened.levels⟩
    · cases read

theorem FromStart.afterSwitches (h : r.FromStart s) {flags : Flags} {seen : List Char}
    (read : r.afterSwitches (flags, seen, cs) = some (r', rest)) :
    ∃ s', s.afterSwitches (flags, seen, cs) = some (s', rest) ∧ r'.FromStart s' := by
  unfold Reader.afterSwitches at read ⊢
  split at read
  · split at read
    · cases read
    · rename_i some
      cases read
      exact ⟨_, if_neg some, (h.withFlags _).push _⟩
  · cases read
    exact ⟨_, rfl, h.openGroup _ _⟩

theorem FromStart.readOpening (h : r.FromStart s) (read : r.readOpening cs = some (r', rest)) :
    ∃ s', s.readOpening cs = some (s', rest) ∧ r'.FromStart s' := by
  have opens := opens_of_readOpening read
  suffices ∃ s', Opens s (s.flags.skip cs) s' rest ∧ r'.FromStart s' by
    obtain ⟨s', opens', h'⟩ := this
    exact ⟨s', readOpening_of_opens opens', h'⟩
  rw [h.flags]
  generalize r.flags.skip cs = found at opens
  cases opens with
  | capture unmarked =>
    refine ⟨_, .capture unmarked, ?_⟩
    rw [h.groups, h.flags]
    have opened := h.openGroup (.capture (r.groups + 1)) r.flags
    exact ⟨opened.flags, rfl, opened.names, opened.levels⟩
  | switches unnamed here done =>
    obtain ⟨s', done', h'⟩ := h.afterSwitches done
    exact ⟨s', .switches unnamed (h.flags ▸ here) done', h'⟩
  | named unlooked here =>
    obtain ⟨s', here', h'⟩ := h.openNamed here
    exact ⟨s', .named unlooked here', h'⟩
  | longNamed here =>
    obtain ⟨s', here', h'⟩ := h.openNamed here
    exact ⟨s', .longNamed here', h'⟩

theorem FromStart.pushChar (h : r.FromStart s) (c : Char) : (r.pushChar c).FromStart (s.pushChar c) := by
  unfold Reader.pushChar
  rw [h.flags]
  exact h.push _

theorem FromStart.pushAtom (h : r.FromStart s) {atom : Atom} (pushed : r.pushAtom atom = some r') :
    ∃ s', s.pushAtom atom = some s' ∧ r'.FromStart s' := by
  cases atom with
  | char c byte =>
    obtain ⟨code, hcode, rfl⟩ := Option.map_eq_some_iff.mp pushed
    exact ⟨_, Option.map_eq_some_iff.mpr ⟨code, h.flags ▸ hcode, rfl⟩, h.pushChar code⟩
  | set set =>
    cases pushed
    exact ⟨_, rfl, h.push _⟩
  | look look =>
    cases pushed
    exact ⟨_, rfl, h.push _⟩

/-- **The step.**  What comes next is read alike behind an anchor. -/
theorem step_fromStart (h : r.FromStart s) {c : Char} (here : r.step c cs = some (r', rest)) :
    ∃ s', s.step c cs = some (s', rest) ∧ r'.FromStart s' := by
  have repeated {min : Nat} {max : Option Nat}
      (here : (r.repeatLast min max (scanLazy cs).1).map (fun r => (r, (scanLazy cs).2)) =
        some (r', rest)) :
      ∃ s', (s.repeatLast min max (scanLazy cs).1).map (fun r => (r, (scanLazy cs).2)) =
        some (s', rest) ∧ r'.FromStart s' := by
    obtain ⟨r'', repeated, heq⟩ := Option.map_eq_some_iff.mp here
    cases heq
    obtain ⟨s', repeated', h'⟩ := h.repeatLast repeated
    exact ⟨s', Option.map_eq_some_iff.mpr ⟨s', repeated', rfl⟩, h'⟩
  have single {p : Part} (here : some (r.push p, cs) = some (r', rest)) :
      ∃ s', some (s.push p, cs) = some (s', rest) ∧ r'.FromStart s' := by
    cases here
    exact ⟨_, rfl, h.push p⟩
  unfold step at here ⊢
  simp only [h.flags] at here ⊢
  split at here
  · exact h.readOpening here
  · obtain ⟨r'', close, heq⟩ := Option.map_eq_some_iff.mp here
    cases heq
    obtain ⟨s', close', h'⟩ := h.closeGroup close
    exact ⟨s', Option.map_eq_some_iff.mpr ⟨s', close', rfl⟩, h'⟩
  · cases here
    exact ⟨_, rfl, h.nextBranch⟩
  · obtain ⟨⟨m, rs⟩, hbracket, heq⟩ := Option.bind_eq_some_iff.mp here
    cases heq
    exact ⟨_, Option.bind_eq_some_iff.mpr ⟨_, hbracket, rfl⟩, h.push _⟩
  · exact repeated here
  · exact repeated here
  · exact repeated here
  · exact h.readCounted here
  · obtain ⟨⟨atom, rs⟩, hatom, here⟩ := Option.bind_eq_some_iff.mp here
    obtain ⟨r'', pushed, heq⟩ := Option.bind_eq_some_iff.mp here
    cases heq
    obtain ⟨s', pushed', h'⟩ := h.pushAtom pushed
    exact ⟨s', Option.bind_eq_some_iff.mpr ⟨_, hatom,
      Option.bind_eq_some_iff.mpr ⟨s', pushed', rfl⟩⟩, h'⟩
  · obtain ⟨set, hset, heq⟩ := Option.map_eq_some_iff.mp here
    cases heq
    exact ⟨_, Option.map_eq_some_iff.mpr ⟨set, hset, rfl⟩, h.push _⟩
  · exact single here
  · exact single here
  · cases here
    exact ⟨_, rfl, h.pushChar _⟩

/-- **The run.**  A text is read alike behind an anchor. -/
theorem Reads.fromStart {n : Nat} (reads : Reads n r cs r') (h : r.FromStart s) :
    ∃ s', Reads n s cs s' ∧ r'.FromStart s' := by
  induction reads generalizing s with
  | done skip => exact ⟨s, .done (h.flags ▸ skip), h⟩
  | step skip here later ih =>
    obtain ⟨next, here', h'⟩ := step_fromStart h here
    obtain ⟨s', later', h''⟩ := ih h'
    exact ⟨s', .step (h.flags ▸ skip) here' later', h''⟩

/-- Where no group is open, the whole text is the group that differs. -/
theorem FromStart.level (h : r.FromStart s) (closed : r.outer = []) : r.level.FromStart s.level := by
  obtain ⟨flags, level, outer, groups, names⟩ := r
  obtain ⟨flags', level', outer', groups', names'⟩ := s
  cases h.levels with
  | inner here => exact here
  | outer level around there => exact absurd closed (List.concat_ne_nil _ _)

/-- **A text between anchors** is read like the text alone. -/
theorem reads_anchored {n : Nat} (reads : Reads n .start cs r) (hspaced : r.flags.spaced = false) :
    ∃ s, r.FromStart s ∧ Reads (n + 2) .start ('^' :: cs ++ ['$'])
      (s.push ⟨.look (anchor r.flags false), 0, true⟩) := by
  obtain ⟨s, reads', h⟩ := reads.fromStart fromStart_start
  have hspaced' : s.flags.spaced = false := h.flags ▸ hspaced
  have reads'' := reads'.append hspaced'
  rw [h.flags] at reads''
  exact ⟨s, h, .step (c := '^') rfl rfl reads''⟩

end Reader

/-! ## 3. What a text between anchors matches -/

/-- An alternative is the first one or a later one. -/
theorem exists_split_cons_iff {α : Type} (first : α) (es : List α) (R : List α → α → List α → Prop) :
    (∃ before e after, first :: es = before ++ e :: after ∧ R before e after) ↔
      R [] first es ∨ ∃ before e after, es = before ++ e :: after ∧ R (first :: before) e after := by
  constructor
  · rintro ⟨before, e, after, heq, h⟩
    cases before with
    | nil =>
      obtain ⟨rfl, rfl⟩ := List.cons.inj heq
      exact .inl h
    | cons b before =>
      obtain ⟨rfl, htail⟩ := List.cons.inj heq
      exact .inr ⟨before, e, after, htail, h⟩
  · rintro (h | ⟨before, e, after, rfl, h⟩)
    · exact ⟨[], first, es, rfl, h⟩
    · exact ⟨first :: before, e, after, rfl, h⟩

/-- An alternative is the last one or one that another follows. -/
theorem exists_split_concat_iff {α : Type} (last : α) (holds : α → Prop) (atEnd : Prop) :
    ∀ es : List α, (∃ before e after, es ++ [last] = before ++ e :: after ∧ holds e ∧
      (after = [] → atEnd)) ↔ (∃ e ∈ es, holds e) ∨ holds last ∧ atEnd
  | [] => by
    rw [List.nil_append, exists_split_cons_iff last [] fun _ e after => holds e ∧ (after = [] → atEnd)]
    simp
  | e :: es => by
    rw [List.cons_append,
      exists_split_cons_iff e (es ++ [last]) fun _ e after => holds e ∧ (after = [] → atEnd),
      exists_split_concat_iff last holds atEnd es]
    simp [or_assoc]

namespace Level

variable {l l' : Level}

/-- Without a bar, there is one alternative. -/
theorem alternatives_of_sole (sole : l.branches = []) : l.alternatives = [l.body.expr] := by
  rw [expr_body]
  unfold alternatives
  rw [sole]
  rfl

/-- The anchor is part of the first alternative. -/
theorem FromStart.alternatives (h : l.FromStart l') : ∃ first first' es,
    l.alternatives = first :: es ∧ l'.alternatives = first' :: es ∧
      ∀ (text : Array Char) (i j : Nat), i ≤ text.size →
        (first'.Matches text i j ↔ i = 0 ∧ first.Matches text i j) := by
  cases h with
  | first opening outside parts =>
    exact ⟨_, _, [], rfl, rfl, branch_fromStart opening outside parts⟩
  | @later p q opening outside branches parts finished =>
    refine ⟨p.expr, q.expr,
      ((branch ⟨opening, outside, [], parts⟩) :: branches).reverse.map (·.expr), ?_, ?_, finished⟩
    · simp only [Level.alternatives, List.reverse_cons, List.reverse_append, List.map_append]
      rfl
    · simp only [Level.alternatives, List.reverse_cons, List.reverse_append, List.map_append]
      rfl

/-- An anchor at the end is part of the alternative that is being read. -/
theorem matches_closed_iff (l : Level) (finish : Look) {text : Array Char} {i j : Nat} :
    (body { l with parts := ⟨.look finish, 0, true⟩ :: l.parts }).expr.Matches text i j ↔
      ∃ before e after, l.alternatives = before ++ e :: after ∧ e.Matches text i j ∧
        (after = [] → finish.holdsAt text j = true) := by
  rw [expr_body, Expr.matches_alternateOf (by simp [alternatives])]
  simp only [alternatives, List.reverse_cons, List.map_append, List.map_cons, List.map_nil]
  rw [exists_split_concat_iff l.branch.expr (·.Matches text i j)]
  simp only [List.mem_append, List.mem_singleton, or_and_right, exists_or, exists_eq_left]
  rw [expr_branch, expr_branch l]
  simp only [List.reverse_cons, List.map_append, Expr.matches_concatOf_append]
  refine or_congr_right ⟨?_, ?_⟩
  · rintro ⟨k, hk, rfl, holds⟩
    exact ⟨hk, holds⟩
  · rintro ⟨hj, holds⟩
    exact ⟨j, hj, rfl, holds⟩

/-- **What a text between anchors matches.**  The first alternative matches from the start of a text
only, the last one up to where the anchor at the end holds, and the others anywhere. -/
theorem matches_anchored_iff (h : l.FromStart l') (finish : Look) {text : Array Char} {i j : Nat}
    (hi : i ≤ text.size) :
    (body { l' with parts := ⟨.look finish, 0, true⟩ :: l'.parts }).expr.Matches text i j ↔
      ∃ before e after, l.alternatives = before ++ e :: after ∧ e.Matches text i j ∧
        (before = [] → i = 0) ∧ (after = [] → finish.holdsAt text j = true) := by
  obtain ⟨first, first', es, hl, hl', hfirst⟩ := h.alternatives
  rw [matches_closed_iff, hl, hl',
    exists_split_cons_iff first' es fun _ e after => e.Matches text i j ∧
      (after = [] → finish.holdsAt text j = true),
    exists_split_cons_iff first es fun before e after => e.Matches text i j ∧
      (before = [] → i = 0) ∧ (after = [] → finish.holdsAt text j = true),
    hfirst text i j hi]
  simp [and_assoc, and_left_comm]

end Level

end DocTables.Regex
