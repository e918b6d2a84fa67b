/-
# The machine finds what there is to find

`Program.Live` says that a place of a program is a place on a way to acceptance.  The machine works
on every place once, so it is not obvious that it misses no way: it gives up a way where it has been
before.  The invariant is that the places worked on are closed (`Explored`): whoever goes on from one
of them comes to another or to one that waits on the stack, and none of them accepts.  When the
stack is empty, the places worked on can therefore not lead to acceptance (`run_eq_none`).

The number of steps that `Program.steps` allows is enough, for a step takes a thread from the stack
or marks a place (`Ready`).  So the search at a place succeeds exactly if that place is live
(`matchAt_isSome_iff`), and the search of the whole text if some place is (`find?_isSome_iff`).
-/
import Mathlib
import DocTables.Regex.Search

namespace DocTables.Regex

variable {p : Program} {text : Array Char}

/-! ## 1. Ways through a program -/

namespace Program

/-- An instruction at a place of the text can be followed by another one at another place. -/
inductive Leads (p : Program) (text : Array Char) : Nat → Nat → Nat → Nat → Prop
  | set {pc pos : Nat} {s : CharSet} {c : Char} (instr : p.code[pc]? = some (.set s))
      (here : text[pos]? = some c) (mem : s.contains c = true) : Leads p text pc pos (pc + 1) (pos + 1)
  | look {pc pos : Nat} {l : Look} (instr : p.code[pc]? = some (.look l))
      (holds : l.holdsAt text pos = true) : Leads p text pc pos (pc + 1) pos
  | save {pc pos slot : Nat} (instr : p.code[pc]? = some (.save slot)) : Leads p text pc pos (pc + 1) pos
  | jump {pc pos target : Nat} (instr : p.code[pc]? = some (.jump target)) : Leads p text pc pos target pos
  | first {pc pos first second : Nat} (instr : p.code[pc]? = some (.fork first second)) :
      Leads p text pc pos first pos
  | second {pc pos first second : Nat} (instr : p.code[pc]? = some (.fork first second)) :
      Leads p text pc pos second pos

/-- Acceptance can be reached in so many steps. -/
inductive Accepts (p : Program) (text : Array Char) : Nat → Nat → Nat → Prop
  | here {pc pos : Nat} (instr : p.code[pc]? = some .accept) : Accepts p text 0 pc pos
  | step {n pc pos pc' pos' : Nat} (leads : p.Leads text pc pos pc' pos')
      (later : Accepts p text n pc' pos') : Accepts p text (n + 1) pc pos

/-- Acceptance can be reached. -/
def Live (p : Program) (text : Array Char) (pc pos : Nat) : Prop := ∃ n, p.Accepts text n pc pos

theorem Live.step {pc pos pc' pos' : Nat} (leads : p.Leads text pc pos pc' pos')
    (live : p.Live text pc' pos') : p.Live text pc pos := by
  obtain ⟨n, h⟩ := live
  exact ⟨n + 1, .step leads h⟩

/-- What is live accepts or leads to what is live. -/
theorem Live.cases {pc pos : Nat} (live : p.Live text pc pos) :
    p.code[pc]? = some .accept ∨
      ∃ pc' pos', p.Leads text pc pos pc' pos' ∧ p.Live text pc' pos' := by
  obtain ⟨n, h⟩ := live
  cases h with
  | here instr => exact .inl instr
  | step leads later => exact .inr ⟨_, _, leads, _, later⟩

/-- Nothing outside the program is live. -/
theorem Live.lt_size {pc pos : Nat} (live : p.Live text pc pos) : pc < p.code.size := by
  have inside {instr : Instr} (h : p.code[pc]? = some instr) : pc < p.code.size :=
    (Array.getElem?_eq_some_iff.mp h).1
  rcases live.cases with instr | ⟨pc', pos', leads, -⟩
  · exact inside instr
  · cases leads with
    | set instr | look instr | save instr | jump instr | first instr | second instr =>
      exact inside instr

/-- The place of a thread is live. -/
def LiveAt (p : Program) (text : Array Char) (t : Thread) : Prop := p.Live text t.pc t.pos

/-- A place does not run past the end of the text. -/
theorem Leads.le_size {pc pos pc' pos' : Nat} (h : p.Leads text pc pos pc' pos')
    (hpos : pos ≤ text.size) : pos' ≤ text.size := by
  cases h with
  | set instr here mem =>
    have := (Array.getElem?_eq_some_iff.mp here).1
    omega
  | look | save | jump | first | second => exact hpos

/-! ## 2. What a step of the machine does -/

/-- Acceptance is an instruction of its own. -/
theorem step_eq_accept_iff {t : Thread} :
    p.step text t = .accept ↔ p.code[t.pc]? = some .accept := by
  unfold step
  cases hcode : p.code[t.pc]? with
  | none => simp
  | some instr =>
    cases instr with
    | set s => cases htext : text[t.pos]? <;> simp
    | look l | save slot | jump target | fork first second => simp
    | accept => simp

/-- **The step.**  The threads that a thread goes on as are those at the places it leads to. -/
theorem step_threads {t : Thread} {next : List Thread} (h : p.step text t = .threads next)
    (pc' pos' : Nat) :
    p.Leads text t.pc t.pos pc' pos' ↔ ∃ t' ∈ next, t'.pc = pc' ∧ t'.pos = pos' := by
  unfold step at h
  constructor
  · intro leads
    cases leads with
    | set instr here mem =>
      simp only [instr, here, mem, if_true] at h
      cases h
      exact ⟨_, List.mem_singleton_self _, rfl, rfl⟩
    | look instr holds =>
      simp only [instr, holds, if_true] at h
      cases h
      exact ⟨_, List.mem_singleton_self _, rfl, rfl⟩
    | save instr | jump instr | first instr =>
      simp only [instr] at h
      cases h
      exact ⟨_, List.mem_cons_self, rfl, rfl⟩
    | second instr =>
      simp only [instr] at h
      cases h
      exact ⟨_, List.mem_cons_of_mem _ (List.mem_singleton_self _), rfl, rfl⟩
  · rintro ⟨t', ht', rfl, rfl⟩
    split at h
    · cases h
      cases ht'
    · cases h
    · rename_i s hcode
      split at h
      · rename_i c here
        cases h
        split at ht'
        · rename_i mem
          obtain rfl := List.mem_singleton.mp ht'
          exact .set hcode here mem
        · cases ht'
      · cases h
        cases ht'
    · rename_i l hcode
      cases h
      split at ht'
      · rename_i holds
        obtain rfl := List.mem_singleton.mp ht'
        exact .look hcode holds
      · cases ht'
    · rename_i slot hcode
      cases h
      obtain rfl := List.mem_singleton.mp ht'
      exact .save hcode
    · rename_i target hcode
      cases h
      obtain rfl := List.mem_singleton.mp ht'
      exact .jump hcode
    · rename_i first second hcode
      cases h
      rcases List.mem_cons.mp ht' with rfl | ht'
      · exact .first hcode
      · obtain rfl := List.mem_singleton.mp ht'
        exact .second hcode

/-- No step goes on as more than two threads, and none goes on from outside the program. -/
theorem length_step {t : Thread} {next : List Thread} (h : p.step text t = .threads next) :
    next.length ≤ 2 ∧ (p.code.size ≤ t.pc → next = []) := by
  constructor
  · unfold step at h
    split at h
    · cases h
      exact Nat.zero_le _
    · cases h
    · split at h
      · cases h
        split <;> simp
      · cases h
        exact Nat.zero_le _
    · cases h
      split <;> simp
    · cases h
      simp
    · cases h
      simp
    · cases h
      exact Nat.le_refl _
  · intro hpc
    rw [step, Array.getElem?_eq_none hpc] at h
    exact (Progress.threads.inj h).symm

end Program

/-! ## 3. Marks -/

namespace Marks

theorem has_add (m : Marks) (pc pos pc' pos' : Nat) :
    (m.add pc pos).has pc' pos' =
      (m.has pc' pos' || (decide (pc = pc' ∧ pos = pos') && decide (pc < m.rows.size))) := by
  unfold has add
  simp only [Array.getD_eq_getD_getElem?, Array.getElem?_modify]
  by_cases hpc : pc = pc'
  · subst hpc
    by_cases hsize : pc < m.rows.size
    · simp [hsize, Nat.testBit_or, Nat.one_shiftLeft, Nat.testBit_two_pow]
    · simp [hsize]
  · simp [hpc]

theorem has_add_of_has {m : Marks} {pc pos pc' pos' : Nat} (h : m.has pc' pos' = true) :
    (m.add pc pos).has pc' pos' = true := by
  rw [has_add, h, Bool.true_or]

theorem has_add_self {m : Marks} {pc pos : Nat} (h : pc < m.rows.size) :
    (m.add pc pos).has pc pos = true := by
  rw [has_add]
  simp [h]

/-- What is marked has been marked before or is marked now. -/
theorem has_of_has_add {m : Marks} {pc pos pc' pos' : Nat}
    (h : (m.add pc pos).has pc' pos' = true) : m.has pc' pos' = true ∨ pc = pc' ∧ pos = pos' := by
  rw [has_add, Bool.or_eq_true, Bool.and_eq_true, decide_eq_true_eq] at h
  exact h.imp_right And.left

@[simp] theorem size_add (m : Marks) (pc pos : Nat) : (m.add pc pos).rows.size = m.rows.size := by
  simp [add]

theorem has_empty (size pc pos : Nat) : (empty size).has pc pos = false := by
  unfold has empty
  rw [Array.getD_eq_getD_getElem?, Array.getElem?_replicate]
  split <;> simp

/-- How many pairs of an instruction and a place of a text of the given size are not marked. -/
def free (m : Marks) (size : Nat) : Nat :=
  ((Finset.range m.rows.size ×ˢ Finset.range (size + 1)).filter fun q =>
    m.has q.1 q.2 = false).card

theorem free_empty_le (rows size : Nat) : (empty rows).free size ≤ rows * (size + 1) := by
  refine (Finset.card_filter_le _ _).trans ?_
  rw [Finset.card_product, Finset.card_range, Finset.card_range, empty, Array.size_replicate]

theorem free_add_subset (m : Marks) (pc pos size : Nat) :
    ((Finset.range (m.add pc pos).rows.size ×ˢ Finset.range (size + 1)).filter fun q =>
      (m.add pc pos).has q.1 q.2 = false) ⊆
        (Finset.range m.rows.size ×ˢ Finset.range (size + 1)).filter fun q =>
          m.has q.1 q.2 = false := by
  intro q hq
  simp only [Finset.mem_filter, size_add, has_add, Bool.or_eq_false_iff] at hq ⊢
  exact ⟨hq.1, hq.2.1⟩

theorem free_add_le (m : Marks) (pc pos size : Nat) : (m.add pc pos).free size ≤ m.free size :=
  Finset.card_le_card (m.free_add_subset pc pos size)

/-- A new mark uses up one of them. -/
theorem free_add_lt {m : Marks} {pc pos size : Nat} (hpc : pc < m.rows.size) (hpos : pos ≤ size)
    (h : m.has pc pos = false) : (m.add pc pos).free size < m.free size := by
  refine Finset.card_lt_card
    ((Finset.ssubset_iff_of_subset (m.free_add_subset pc pos size)).mpr ⟨(pc, pos), ?_, ?_⟩)
  · simp only [Finset.mem_filter, Finset.mem_product, Finset.mem_range]
    exact ⟨⟨hpc, Nat.lt_succ_of_le hpos⟩, h⟩
  · simp [has_add, hpc]

end Marks

namespace Program

/-! ## 4. Runs -/

/-- A run that can go on to its end: its steps suffice. -/
structure Ready (p : Program) (text : Array Char) (fuel : Nat) (marks : Marks)
    (stack : List Thread) : Prop where
  size : marks.rows.size = p.code.size
  inText : ∀ t ∈ stack, t.pos ≤ text.size
  enough : 2 * marks.free text.size + stack.length < fuel

variable {fuel : Nat} {marks : Marks} {t : Thread} {rest : List Thread}

/-- A thread that is given up. -/
theorem Ready.pop (h : Ready p text (fuel + 1) marks (t :: rest)) : Ready p text fuel marks rest := by
  refine ⟨h.size, fun t' ht' => h.inText t' (List.mem_cons_of_mem _ ht'), ?_⟩
  have := h.enough
  rw [List.length_cons] at this
  omega

/-- A thread that goes on. -/
theorem Ready.push (h : Ready p text (fuel + 1) marks (t :: rest))
    (new : marks.has t.pc t.pos = false) {next : List Thread}
    (step : p.step text t = .threads next) :
    Ready p text fuel (marks.add t.pc t.pos) (next ++ rest) := by
  have hpos := h.inText t List.mem_cons_self
  refine ⟨by rw [Marks.size_add, h.size], ?_, ?_⟩
  · intro t' ht'
    rcases List.mem_append.mp ht' with ht' | ht'
    · exact ((step_threads step t'.pc t'.pos).mpr ⟨t', ht', rfl, rfl⟩).le_size hpos
    · exact h.inText t' (List.mem_cons_of_mem _ ht')
  · have henough := h.enough
    obtain ⟨htwo, hnone⟩ := length_step step
    simp only [List.length_cons, List.length_append] at henough ⊢
    by_cases hpc : t.pc < p.code.size
    · have := Marks.free_add_lt (h.size ▸ hpc) hpos new
      omega
    · have := marks.free_add_le t.pc t.pos text.size
      rw [hnone (Nat.le_of_not_lt hpc), List.length_nil]
      omega

theorem run_marked (h : marks.has t.pc t.pos = true) :
    p.run text (fuel + 1) marks (t :: rest) = p.run text fuel marks rest := by
  rw [run, if_pos h]

theorem run_accept (new : marks.has t.pc t.pos = false) (step : p.step text t = .accept) :
    p.run text (fuel + 1) marks (t :: rest) = some t.notes := by
  rw [run, if_neg (by simp [new]), step]

theorem run_threads (new : marks.has t.pc t.pos = false) {next : List Thread}
    (step : p.step text t = .threads next) :
    p.run text (fuel + 1) marks (t :: rest) =
      p.run text fuel (marks.add t.pc t.pos) (next ++ rest) := by
  rw [run, if_neg (by simp [new]), step]

/-- What a run accepts has been live on the stack. -/
theorem live_of_run {notes : Notes} : ∀ {fuel : Nat} {marks : Marks} {stack : List Thread},
    p.run text fuel marks stack = some notes → ∃ t ∈ stack, p.LiveAt text t
  | 0, _, _, h => by simp [run] at h
  | fuel + 1, _, [], h => by simp [run] at h
  | fuel + 1, marks, t :: rest, h => by
    cases hmark : marks.has t.pc t.pos with
    | true =>
      rw [run_marked hmark] at h
      obtain ⟨t', ht', live⟩ := live_of_run h
      exact ⟨t', List.mem_cons_of_mem _ ht', live⟩
    | false =>
      cases hstep : p.step text t with
      | accept => exact ⟨t, List.mem_cons_self, 0, .here (step_eq_accept_iff.mp hstep)⟩
      | threads next =>
        rw [run_threads hmark hstep] at h
        obtain ⟨t', ht', live⟩ := live_of_run h
        rcases List.mem_append.mp ht' with ht' | ht'
        · have leads := (step_threads hstep t'.pc t'.pos).mpr ⟨t', ht', rfl, rfl⟩
          exact ⟨t, List.mem_cons_self, Live.step leads live⟩
        · exact ⟨t', List.mem_cons_of_mem _ ht', live⟩

/-- The places that have been worked on are closed: they lead to each other and to what waits on the
stack, and none of them accepts. -/
structure Explored (p : Program) (text : Array Char) (marks : Marks) (stack : List Thread) :
    Prop where
  rejects : ∀ pc pos, marks.has pc pos = true → p.code[pc]? ≠ some .accept
  closed : ∀ pc pos pc' pos', marks.has pc pos = true → p.Leads text pc pos pc' pos' →
    pc' < p.code.size → marks.has pc' pos' = true ∨ ∃ t ∈ stack, t.pc = pc' ∧ t.pos = pos'

/-- Closed places do not lead to acceptance. -/
theorem Explored.not_live (h : Explored p text marks []) {pc pos : Nat}
    (hmark : marks.has pc pos = true) : ¬p.Live text pc pos := by
  rintro ⟨n, accepts⟩
  induction accepts with
  | here instr => exact h.rejects _ _ hmark instr
  | step leads later ih =>
    rcases h.closed _ _ _ _ hmark leads (Live.lt_size ⟨_, later⟩) with hmark' | ⟨t, ht, -, -⟩
    · exact ih hmark'
    · cases ht

theorem Explored.pop (h : Explored p text marks (t :: rest)) (hmark : marks.has t.pc t.pos = true) :
    Explored p text marks rest := by
  refine ⟨h.rejects, fun pc pos pc' pos' hpc leads inside => ?_⟩
  rcases h.closed pc pos pc' pos' hpc leads inside with hmark' | ⟨t', ht', rfl, rfl⟩
  · exact .inl hmark'
  · rcases List.mem_cons.mp ht' with rfl | ht'
    · exact .inl hmark
    · exact .inr ⟨t', ht', rfl, rfl⟩

theorem Explored.push (h : Explored p text marks (t :: rest)) (size : marks.rows.size = p.code.size)
    {next : List Thread} (step : p.step text t = .threads next) :
    Explored p text (marks.add t.pc t.pos) (next ++ rest) := by
  constructor
  · intro pc pos hmark
    rcases Marks.has_of_has_add hmark with hmark | ⟨rfl, rfl⟩
    · exact h.rejects pc pos hmark
    · intro haccept
      rw [step_eq_accept_iff.mpr haccept] at step
      cases step
  · intro pc pos pc' pos' hmark leads inside
    rcases Marks.has_of_has_add hmark with hmark | ⟨rfl, rfl⟩
    · rcases h.closed pc pos pc' pos' hmark leads inside with hmark' | ⟨t', ht', rfl, rfl⟩
      · exact .inl (Marks.has_add_of_has hmark')
      · rcases List.mem_cons.mp ht' with rfl | ht'
        · exact .inl (Marks.has_add_self (size ▸ inside))
        · exact .inr ⟨t', List.mem_append_right _ ht', rfl, rfl⟩
    · obtain ⟨t', ht', h1, h2⟩ := (step_threads step pc' pos').mp leads
      exact .inr ⟨t', List.mem_append_left _ ht', h1, h2⟩

/-- **A run that accepts nothing has missed nothing.**  None of the places on its stack is live, nor
is any that has been marked before. -/
theorem run_eq_none : ∀ {fuel : Nat} {marks : Marks} {stack : List Thread},
    Ready p text fuel marks stack → Explored p text marks stack →
    p.run text fuel marks stack = none →
      (∀ pc pos, marks.has pc pos = true → ¬p.Live text pc pos) ∧ ∀ t ∈ stack, ¬p.LiveAt text t
  | 0, _, _, ready, _, _ => absurd ready.enough (Nat.not_lt_zero _)
  | fuel + 1, marks, [], _, explored, _ =>
    ⟨fun _ _ hmark => explored.not_live hmark, fun _ h => by cases h⟩
  | fuel + 1, marks, t :: rest, ready, explored, h => by
    cases hmark : marks.has t.pc t.pos with
    | true =>
      rw [run_marked hmark] at h
      obtain ⟨hmarks, hrest⟩ := run_eq_none ready.pop (explored.pop hmark) h
      refine ⟨hmarks, fun t' ht' => ?_⟩
      rcases List.mem_cons.mp ht' with rfl | ht'
      · exact hmarks _ _ hmark
      · exact hrest t' ht'
    | false =>
      cases hstep : p.step text t with
      | accept =>
        rw [run_accept hmark hstep] at h
        cases h
      | threads next =>
        rw [run_threads hmark hstep] at h
        obtain ⟨hmarks, hstack⟩ :=
          run_eq_none (ready.push hmark hstep) (explored.push ready.size hstep) h
        refine ⟨fun pc pos hpc => hmarks pc pos (Marks.has_add_of_has hpc), fun t' ht' => ?_⟩
        rcases List.mem_cons.mp ht' with rfl | ht'
        · intro live
          exact hmarks _ _ (Marks.has_add_self (ready.size ▸ live.lt_size)) live
        · exact hstack t' (List.mem_append_right _ ht')

/-- The steps that a search is given suffice. -/
theorem ready_start (p : Program) {start : Nat} (h : start ≤ text.size) :
    Ready p text (p.steps text) (.empty p.code.size) [⟨0, start, []⟩] := by
  refine ⟨by simp [Marks.empty], ?_, ?_⟩
  · intro t ht
    obtain rfl := List.mem_singleton.mp ht
    exact h
  · have hfree := Marks.free_empty_le p.code.size text.size
    rw [steps, List.length_singleton, Nat.add_one_mul p.code.size]
    omega

theorem explored_start (p : Program) (text : Array Char) (stack : List Thread) :
    Explored p text (.empty p.code.size) stack := by
  constructor
  · intro pc pos hmark
    simp [Marks.has_empty] at hmark
  · intro pc pos pc' pos' hmark
    simp [Marks.has_empty] at hmark

/-- **The search at a place succeeds exactly if the place is live.** -/
theorem matchAt_isSome_iff (p : Program) {start : Nat} (h : start ≤ text.size) :
    (p.matchAt text start).isSome = true ↔ p.Live text 0 start := by
  constructor
  · intro hsome
    obtain ⟨notes, hnotes⟩ := Option.isSome_iff_exists.mp hsome
    obtain ⟨t, ht, live⟩ := live_of_run hnotes
    obtain rfl := List.mem_singleton.mp ht
    exact live
  · intro live
    cases hmatch : p.matchAt text start with
    | some notes => rfl
    | none =>
      have hdead := (run_eq_none (p.ready_start h) (p.explored_start text _) hmatch).2
      exact absurd live (hdead _ (List.mem_singleton_self _))

/-- **The search of a text succeeds exactly if some place is live.** -/
theorem find?_isSome_iff (p : Program) (text : Array Char) :
    (p.find? text).isSome = true ↔ ∃ start ≤ text.size, p.Live text 0 start := by
  rw [find?, List.findSome?_isSome_iff]
  constructor
  · rintro ⟨start, hmem, hsome⟩
    have hstart := Nat.le_of_lt_succ (List.mem_range.mp hmem)
    exact ⟨start, hstart, (p.matchAt_isSome_iff hstart).mp hsome⟩
  · rintro ⟨start, hstart, live⟩
    exact ⟨start, List.mem_range.mpr (Nat.lt_succ_of_le hstart),
      (p.matchAt_isSome_iff hstart).mpr live⟩

end Program

end DocTables.Regex
