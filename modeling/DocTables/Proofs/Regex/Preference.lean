/-
# The machine finds what is preferred

Of the ways to acceptance the machine takes the preferred one: at every place it goes on as the first
of the threads that can still be accepted (`Program.Gives`).  It is not obvious that it does, for it
gives up a way where it has been before, and a place where it has been need not be dead: it may be
one that the machine is just trying to get on from.

Where every way comes to an end (`Program.Ends`), no such place is met again, so all places that are
met and marked are dead.  That is the invariant (`Fresh`): it carries over to the threads that a
thread goes on as, and to what waits below them once they are found dead (`settles`).  So a search at
a live place gives what is preferred (`matchAt_gives`).

For a given program both are followed instruction by instruction: every instruction has a rule for
what is given there (`Gives.fork`) and one for ways that end (`Ends.fork`).
-/
import Mathlib
import DocTables.Proofs.Regex.Matches

namespace DocTables.Regex.Program

variable {p : Program} {text : Array Char}

/-! ## 1. The preferred way -/

/-- The notes at the end of the preferred way. -/
inductive Gives (p : Program) (text : Array Char) : Thread → Notes → Prop
  | accept {t : Thread} (here : p.step text t = .accept) : Gives p text t t.notes
  | go {t next : Thread} {before after : List Thread} {notes : Notes}
      (here : p.step text t = .threads (before ++ next :: after))
      (dead : ∀ d ∈ before, ¬p.LiveAt text d) (later : Gives p text next notes) :
      Gives p text t notes

/-- A way that is given leads to acceptance. -/
theorem Gives.liveAt {t : Thread} {notes : Notes} (h : p.Gives text t notes) : p.LiveAt text t := by
  induction h with
  | accept here => exact ⟨0, .here (step_eq_accept_iff.mp here)⟩
  | @go t next before after notes here dead later ih =>
    have leads := (step_threads here next.pc next.pos).mpr
      ⟨next, List.mem_append_right _ List.mem_cons_self, rfl, rfl⟩
    exact Live.step leads ih

/-- Where there is one way on, the preferred way takes it. -/
theorem Gives.single {t next : Thread} {notes : Notes} (here : p.step text t = .threads [next])
    (h : p.Gives text t notes) : p.Gives text next notes := by
  cases h with
  | accept here' => simp [here'] at here
  | @go _ next' before after _ here' dead later =>
    rw [here] at here'
    cases before with
    | nil =>
      obtain ⟨rfl, rfl⟩ : next = next' ∧ [] = after := by simpa using here'
      exact later
    | cons d before => simp at here'

/-- Of two ways on, the preferred way takes the first unless it is dead. -/
theorem Gives.pair {t first second : Thread} {notes : Notes}
    (here : p.step text t = .threads [first, second]) (h : p.Gives text t notes) :
    p.Gives text first notes ∨ ¬p.LiveAt text first ∧ p.Gives text second notes := by
  cases h with
  | accept here' => simp [here'] at here
  | @go _ next' before after _ here' dead later =>
    rw [here] at here'
    rcases before with _ | ⟨d, _ | ⟨d', before⟩⟩
    · obtain ⟨rfl, -⟩ : first = next' ∧ [second] = after := by simpa using here'
      exact .inl later
    · obtain ⟨rfl, rfl, -⟩ : first = d ∧ second = next' ∧ [] = after := by simpa using here'
      exact .inr ⟨dead first List.mem_cons_self, later⟩
    · simp at here'

/-! ## 2. Ways that end -/

/-- Every way on from a place comes to an end. -/
inductive Ends (p : Program) (text : Array Char) : Nat → Nat → Prop
  | intro {pc pos : Nat} (later : ∀ pc' pos', p.Leads text pc pos pc' pos' → Ends p text pc' pos') :
      Ends p text pc pos

/-- A place is on a way from another. -/
inductive Reaches (p : Program) (text : Array Char) : Nat → Nat → Nat → Nat → Prop
  | here (pc pos : Nat) : Reaches p text pc pos pc pos
  | step {pc pos pc' pos' pc'' pos'' : Nat} (leads : p.Leads text pc pos pc' pos')
      (later : Reaches p text pc' pos' pc'' pos'') : Reaches p text pc pos pc'' pos''

theorem Reaches.append {pc pos pc' pos' pc'' pos'' : Nat} (h : p.Reaches text pc pos pc' pos')
    (leads : p.Leads text pc' pos' pc'' pos'') : p.Reaches text pc pos pc'' pos'' := by
  induction h with
  | here => exact .step leads (.here _ _)
  | step first later ih => exact .step first (ih leads)

/-- Ways that end do not come back to where they have been. -/
theorem Ends.not_reaches {pc pos : Nat} (h : p.Ends text pc pos) :
    ∀ {pc' pos'}, p.Leads text pc pos pc' pos' → ¬p.Reaches text pc' pos' pc pos := by
  induction h with
  | @intro pc pos later ih =>
    intro pc' pos' leads back
    cases back with
    | here => exact ih pc pos leads leads (.here _ _)
    | step next back => exact ih pc' pos' leads next (back.append leads)

/-! ## 3. Runs -/

/-- What is marked on the ways from a thread is dead. -/
def Fresh (p : Program) (text : Array Char) (marks : Marks) (t : Thread) : Prop :=
  ∀ pc pos, marks.has pc pos = true → p.Reaches text t.pc t.pos pc pos → ¬p.Live text pc pos

/-- The threads on top of a stack are dealt with: the first one that is live gives the result, or all
are dead, and the run goes on with the rest of the stack; what it has marked then is dead. -/
inductive Settles (p : Program) (text : Array Char) (fuel : Nat) (marks : Marks)
    (top rest : List Thread) : Prop
  | found (before after : List Thread) {t : Thread} {notes : Notes} (split : top = before ++ t :: after)
      (dead : ∀ d ∈ before, ¬p.LiveAt text d) (gives : p.Gives text t notes)
      (result : p.run text fuel marks (top ++ rest) = some notes)
  | passed {fuel' : Nat} {marks' : Marks} (dead : ∀ d ∈ top, ¬p.LiveAt text d)
      (ready : Ready p text fuel' marks' rest)
      (result : p.run text fuel marks (top ++ rest) = p.run text fuel' marks' rest)
      (marked : ∀ pc pos, marks'.has pc pos = true →
        marks.has pc pos = true ∨ ¬p.Live text pc pos)

/-- More marks of dead places do no harm. -/
theorem Fresh.mono {marks marks' : Marks} {t : Thread} (h : p.Fresh text marks t)
    (marked : ∀ pc pos, marks'.has pc pos = true → marks.has pc pos = true ∨ ¬p.Live text pc pos) :
    p.Fresh text marks' t := by
  intro pc pos hmark reaches
  rcases marked pc pos hmark with hmark | dead
  · exact h pc pos hmark reaches
  · exact dead

/-- Threads are dealt with one after another. -/
theorem settles_list : ∀ (top : List Thread) (rest : List Thread) (fuel : Nat) (marks : Marks),
    (∀ t ∈ top, ∀ rest fuel marks, Ready p text fuel marks (t :: rest) → p.Fresh text marks t →
      Settles p text fuel marks [t] rest) →
    Ready p text fuel marks (top ++ rest) → (∀ t ∈ top, p.Fresh text marks t) →
      Settles p text fuel marks top rest
  | [], rest, fuel, marks, _, ready, _ =>
    .passed (fun _ h => by cases h) ready rfl fun _ _ h => .inl h
  | t :: top, rest, fuel, marks, single, ready, fresh => by
    cases single t List.mem_cons_self (top ++ rest) fuel marks ready (fresh t List.mem_cons_self) with
    | @found before after t' notes split dead gives result =>
      obtain ⟨rfl, rfl, rfl⟩ : before = [] ∧ t = t' ∧ after = [] := by
        cases before with
        | nil => simpa using split
        | cons d before => simp at split
      exact .found [] top rfl dead gives result
    | passed dead ready' result marked =>
      have hrest := settles_list top rest _ _
        (fun t' ht' => single t' (List.mem_cons_of_mem _ ht')) ready'
        fun t' ht' => (fresh t' (List.mem_cons_of_mem _ ht')).mono marked
      cases hrest with
      | @found before after t' notes split dead' gives result' =>
        refine .found (t :: before) after ?_ ?_ gives (result.trans result')
        · rw [split, List.cons_append]
        · intro d hd
          rcases List.mem_cons.mp hd with rfl | hd
          · exact dead d (List.mem_singleton_self _)
          · exact dead' d hd
      | passed dead' ready'' result' marked' =>
        refine .passed ?_ ready'' (result.trans result') ?_
        · intro d hd
          rcases List.mem_cons.mp hd with rfl | hd
          · exact dead d (List.mem_singleton_self _)
          · exact dead' d hd
        · intro pc pos hmark
          rcases marked' pc pos hmark with hmark | hdead
          · exact marked pc pos hmark
          · exact .inr hdead

/-- **A thread is dealt with** as its place deserves, if all ways from it end. -/
theorem settles {pc pos : Nat} (ends : p.Ends text pc pos) :
    ∀ (notes : Notes) (rest : List Thread) (fuel : Nat) (marks : Marks),
      Ready p text fuel marks (⟨pc, pos, notes⟩ :: rest) → p.Fresh text marks ⟨pc, pos, notes⟩ →
        Settles p text fuel marks [⟨pc, pos, notes⟩] rest := by
  induction ends with
  | @intro pc pos later ih =>
    intro notes rest fuel marks ready fresh
    obtain ⟨fuel, rfl⟩ : ∃ k, fuel = k + 1 := ⟨fuel - 1, by have := ready.enough; omega⟩
    cases hmark : marks.has pc pos with
    | true =>
      refine .passed ?_ ready.pop (run_marked hmark) fun _ _ h => .inl h
      intro d hd
      obtain rfl := List.mem_singleton.mp hd
      exact fresh pc pos hmark (.here pc pos)
    | false =>
      cases hstep : p.step text ⟨pc, pos, notes⟩ with
      | accept =>
        exact .found [] [] rfl (fun _ h => by cases h) (.accept hstep) (run_accept hmark hstep)
      | threads next =>
        have leads (t : Thread) (ht : t ∈ next) : p.Leads text pc pos t.pc t.pos :=
          (step_threads hstep t.pc t.pos).mpr ⟨t, ht, rfl, rfl⟩
        have fresh' (t : Thread) (ht : t ∈ next) : p.Fresh text (marks.add pc pos) t := by
          intro pc' pos' hmark' reaches
          rcases Marks.has_of_has_add hmark' with hmark' | ⟨rfl, rfl⟩
          · exact fresh pc' pos' hmark' (.step (leads t ht) reaches)
          · exact absurd reaches (Ends.not_reaches (.intro later) (leads t ht))
        have hnext := settles_list next rest fuel (marks.add pc pos)
          (fun t ht => ih t.pc t.pos (leads t ht) t.notes) (ready.push hmark hstep) fresh'
        have hrun : p.run text (fuel + 1) marks (⟨pc, pos, notes⟩ :: rest) =
            p.run text fuel (marks.add pc pos) (next ++ rest) := run_threads hmark hstep
        cases hnext with
        | @found before after t notes' split dead gives result =>
          subst split
          exact .found [] [] rfl (fun _ h => by cases h) (.go hstep dead gives)
            (hrun.trans result)
        | passed dead ready' result marked =>
          have hdead : ¬p.Live text pc pos := by
            intro live
            rcases live.cases with accept | ⟨pc', pos', hleads, live'⟩
            · rw [step_eq_accept_iff.mpr accept] at hstep
              cases hstep
            · obtain ⟨t, ht, rfl, rfl⟩ := (step_threads hstep pc' pos').mp hleads
              exact dead t ht live'
          refine .passed ?_ ready' (hrun.trans result) ?_
          · intro d hd
            obtain rfl := List.mem_singleton.mp hd
            exact hdead
          · intro pc' pos' hmark'
            rcases marked pc' pos' hmark' with hmark' | hdead'
            · rcases Marks.has_of_has_add hmark' with hmark' | ⟨rfl, rfl⟩
              · exact .inl hmark'
              · exact .inr hdead
            · exact .inr hdead'

/-- **A search at a live place gives what is preferred**, if all ways from there end. -/
theorem matchAt_gives {start : Nat} (ends : p.Ends text 0 start) (h : start ≤ text.size)
    (live : p.Live text 0 start) :
    ∃ notes, p.matchAt text start = some notes ∧ p.Gives text ⟨0, start, []⟩ notes := by
  have fresh : p.Fresh text (.empty p.code.size) ⟨0, start, []⟩ := by
    intro pc pos hmark
    rw [Marks.has_empty] at hmark
    cases hmark
  cases settles ends [] [] _ _ (p.ready_start h) fresh with
  | @found before after t notes split dead gives result =>
    obtain ⟨rfl, rfl, -⟩ : before = [] ∧ ⟨0, start, []⟩ = t ∧ after = [] := by
      cases before with
      | nil => simpa using split
      | cons d before => simp at split
    exact ⟨notes, result, gives⟩
  | passed dead => exact absurd live (dead _ (List.mem_singleton_self _))

/-! ## 4. Single instructions -/

variable {pc pos target first second slot : Nat} {s : CharSet} {l : Look} {notes out : Notes}

theorem Gives.set (instr : p.code[pc]? = some (.set s)) (h : p.Gives text ⟨pc, pos, notes⟩ out) :
    ∃ c, text[pos]? = some c ∧ s.contains c = true ∧
      p.Gives text ⟨pc + 1, pos + 1, notes⟩ out := by
  obtain ⟨n, accepts⟩ := h.liveAt
  obtain ⟨⟨c, here, mem⟩, -⟩ := through_of_accepts instr accepts
  exact ⟨c, here, mem, h.single (by simp [step, instr, here, mem])⟩

theorem Gives.look (instr : p.code[pc]? = some (.look l))
    (h : p.Gives text ⟨pc, pos, notes⟩ out) :
    l.holdsAt text pos = true ∧ p.Gives text ⟨pc + 1, pos, notes⟩ out := by
  obtain ⟨n, accepts⟩ := h.liveAt
  obtain ⟨holds, -⟩ := through_of_accepts instr accepts
  exact ⟨holds, h.single (by simp [step, instr, holds])⟩

theorem Gives.save (instr : p.code[pc]? = some (.save slot))
    (h : p.Gives text ⟨pc, pos, notes⟩ out) :
    p.Gives text ⟨pc + 1, pos, (slot, pos) :: notes⟩ out := h.single (by simp [step, instr])

theorem Gives.jump (instr : p.code[pc]? = some (.jump target))
    (h : p.Gives text ⟨pc, pos, notes⟩ out) : p.Gives text ⟨target, pos, notes⟩ out :=
  h.single (by simp [step, instr])

theorem Gives.fork (instr : p.code[pc]? = some (.fork first second))
    (h : p.Gives text ⟨pc, pos, notes⟩ out) : p.Gives text ⟨first, pos, notes⟩ out ∨
      ¬p.Live text first pos ∧ p.Gives text ⟨second, pos, notes⟩ out :=
  h.pair (by simp [step, instr])

theorem Gives.eq_of_accept (instr : p.code[pc]? = some .accept) (h : p.Gives text ⟨pc, pos, notes⟩ out) :
    out = notes := by
  cases h with
  | accept => rfl
  | go here => simp [step, instr] at here

/-- Ways end at a place if all that its step leads to ends. -/
theorem Ends.of_step {next : List Thread} (here : p.step text ⟨pc, pos, []⟩ = .threads next)
    (later : ∀ t ∈ next, p.Ends text t.pc t.pos) : p.Ends text pc pos := by
  refine .intro fun pc' pos' leads => ?_
  obtain ⟨t, ht, rfl, rfl⟩ := (step_threads here pc' pos').mp leads
  exact later t ht

theorem Ends.set (instr : p.code[pc]? = some (.set s))
    (later : pos < text.size → p.Ends text (pc + 1) (pos + 1)) : p.Ends text pc pos := by
  refine .intro fun pc' pos' leads => ?_
  cases leads with
  | set instr' here mem => exact later (Array.getElem?_eq_some_iff.mp here).1
  | look instr' | save instr' | jump instr' | first instr' | second instr' =>
    rw [instr] at instr'
    cases instr'

theorem Ends.look (instr : p.code[pc]? = some (.look l)) (later : p.Ends text (pc + 1) pos) :
    p.Ends text pc pos := by
  refine .intro fun pc' pos' leads => ?_
  cases leads with
  | look instr' holds => exact later
  | set instr' | save instr' | jump instr' | first instr' | second instr' =>
    rw [instr] at instr'
    cases instr'

theorem Ends.save (instr : p.code[pc]? = some (.save slot)) (later : p.Ends text (pc + 1) pos) :
    p.Ends text pc pos := .of_step (by simp [step, instr]; rfl) (by simpa using later)

theorem Ends.jump (instr : p.code[pc]? = some (.jump target)) (later : p.Ends text target pos) :
    p.Ends text pc pos := .of_step (by simp [step, instr]; rfl) (by simpa using later)

theorem Ends.fork (instr : p.code[pc]? = some (.fork first second)) (one : p.Ends text first pos)
    (two : p.Ends text second pos) : p.Ends text pc pos :=
  .of_step (by simp [step, instr]; rfl) (by simpa using ⟨one, two⟩)

theorem Ends.accept (instr : p.code[pc]? = some .accept) : p.Ends text pc pos := by
  refine .intro fun pc' pos' leads => ?_
  cases leads with
  | set instr' | look instr' | save instr' | jump instr' | first instr' | second instr' =>
    rw [instr] at instr'
    cases instr'

end DocTables.Regex.Program
