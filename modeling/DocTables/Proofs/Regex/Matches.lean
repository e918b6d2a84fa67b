/-
# What an expression matches

`Expr.Matches` says, without a machine, which stretches of a text an expression matches.  The code of
an expression goes from its first instruction past its last one over just these stretches: whoever is
live at the start of the code comes past it over a stretch that matches and is live there
(`passes_code`), and the other way round (`admits_code`).  Both go by recursion over the expression;
a repetition is a loop, which is followed round by round (`rounds_of_accepts`, `live_of_rounds`).

Hence a search succeeds exactly if the expression matches some stretch (`find?_ofExpr_iff`).
-/
import DocTables.Proofs.Regex.Machine

namespace DocTables.Regex

variable {text : Array Char}

/-! ## 1. Stretches that match -/

/-- So many stretches one after another. -/
def Rounds (stretch : Nat → Nat → Prop) : Nat → Nat → Nat → Prop
  | 0, i, j => i = j
  | n + 1, i, j => ∃ k, stretch i k ∧ Rounds stretch n k j

/-- The expression matches the stretch of the text between two places. -/
def Expr.Matches (text : Array Char) : Expr → Nat → Nat → Prop
  | .empty, i, j => i = j
  | .set s, i, j => j = i + 1 ∧ ∃ c, text[i]? = some c ∧ s.contains c = true
  | .look l, i, j => i = j ∧ l.holdsAt text i = true
  | .group _ e, i, j => e.Matches text i j
  | .concat a b, i, j => ∃ k, a.Matches text i k ∧ b.Matches text k j
  | .alternate a b, i, j => a.Matches text i j ∨ b.Matches text i j
  | .repetition min max _ e, i, j =>
    ∃ extra, (∀ most, max = some most → extra ≤ most - min) ∧ Rounds (e.Matches text) (min + extra) i j

theorem rounds_add {stretch : Nat → Nat → Prop} : ∀ (m n i j : Nat),
    Rounds stretch (m + n) i j ↔ ∃ k, Rounds stretch m i k ∧ Rounds stretch n k j
  | 0, n, i, j => by simp [Rounds]
  | m + 1, n, i, j => by
    rw [Nat.add_right_comm]
    simp only [Rounds, rounds_add m n]
    constructor
    · rintro ⟨k, hk, l, hl, hj⟩
      exact ⟨l, ⟨k, hk, hl⟩, hj⟩
    · rintro ⟨l, ⟨k, hk, hl⟩, hj⟩
      exact ⟨k, hk, l, hl, hj⟩

theorem rounds_le {stretch : Nat → Nat → Prop} {size : Nat}
    (h : ∀ i j, stretch i j → i ≤ size → j ≤ size) :
    ∀ {n i j : Nat}, Rounds stretch n i j → i ≤ size → j ≤ size
  | 0, i, j, hr, hi => by
    obtain rfl : i = j := hr
    exact hi
  | n + 1, i, j, ⟨k, hk, hr⟩, hi => rounds_le h hr (h i k hk hi)

/-- A stretch does not run past the end of the text. -/
theorem Expr.Matches.le_size : ∀ {e : Expr} {i j : Nat}, e.Matches text i j → i ≤ text.size →
    j ≤ text.size
  | .empty, i, j, h, hi => by
    obtain rfl : i = j := h
    exact hi
  | .set s, i, j, ⟨hj, c, hc, _⟩, _ => by
    have := (Array.getElem?_eq_some_iff.mp hc).1
    omega
  | .look l, i, j, ⟨hj, _⟩, hi => hj ▸ hi
  | .group _ e, _, _, h, hi => le_size (e := e) h hi
  | .concat a b, _, _, ⟨_, ha, hb⟩, hi => le_size (e := b) hb (le_size (e := a) ha hi)
  | .alternate a b, _, _, h, hi => h.elim (le_size (e := a) · hi) (le_size (e := b) · hi)
  | .repetition _ _ _ e, _, _, ⟨_, _, h⟩, hi => rounds_le (fun _ _ => le_size (e := e)) h hi

/-- One expression after another. -/
theorem Expr.matches_concatOf_cons (e : Expr) (es : List Expr) (i j : Nat) :
    (concatOf (e :: es)).Matches text i j ↔ ∃ k, e.Matches text i k ∧ (concatOf es).Matches text k j := by
  cases es with
  | nil => simp [concatOf, Matches]
  | cons e' es => rfl

theorem Expr.matches_concatOf_append : ∀ (es es' : List Expr) (i j : Nat),
    (concatOf (es ++ es')).Matches text i j ↔
      ∃ k, (concatOf es).Matches text i k ∧ (concatOf es').Matches text k j
  | [], es', i, j => by simp [concatOf, Matches]
  | e :: es, es', i, j => by
    simp only [List.cons_append, matches_concatOf_cons, matches_concatOf_append es]
    constructor
    · rintro ⟨k, hk, l, hl, hj⟩
      exact ⟨l, ⟨k, hk, hl⟩, hj⟩
    · rintro ⟨l, ⟨k, hk, hl⟩, hj⟩
      exact ⟨k, hk, l, hl, hj⟩

/-- One of several expressions. -/
theorem Expr.matches_alternateOf {es : List Expr} (h : es ≠ []) (i j : Nat) :
    (alternateOf es).Matches text i j ↔ ∃ e ∈ es, e.Matches text i j := by
  induction es with
  | nil => exact absurd rfl h
  | cons e es ih =>
    cases es with
    | nil => simp [alternateOf]
    | cons e' es =>
      change e.Matches text i j ∨ (alternateOf (e' :: es)).Matches text i j ↔ _
      rw [ih (List.cons_ne_nil _ _)]
      simp only [List.mem_cons, exists_eq_or_imp]

theorem Look.textStart_holdsAt_iff {i : Nat} (hi : i ≤ text.size) :
    Look.textStart.holdsAt text i = true ↔ i = 0 := by
  unfold holdsAt holds
  by_cases h : i = 0
  · simp [h]
  · rw [if_neg h, Array.getElem?_eq_getElem (by omega)]
    simp [h]

theorem Look.textFinish_holdsAt_iff (j : Nat) :
    Look.textFinish.holdsAt text j = true ↔ text.size ≤ j := by
  unfold holdsAt holds
  simp

/-! ## 2. Programs that hold code -/

namespace Program

variable {p : Program}

/-- The program has these instructions at successive addresses. -/
def Holds (p : Program) : Nat → List Instr → Prop
  | _, [] => True
  | base, instr :: rest => p.code[base]? = some instr ∧ p.Holds (base + 1) rest

theorem holds_append (p : Program) : ∀ (base : Nat) (code later : List Instr),
    p.Holds base (code ++ later) ↔ p.Holds base code ∧ p.Holds (base + code.length) later
  | _, [], _ => by simp [Holds]
  | base, instr :: code, later => by
    simp only [List.cons_append, Holds, holds_append p (base + 1), List.length_cons, and_assoc,
      Nat.add_assoc, Nat.add_comm 1]

/-- A program holds its own code. -/
theorem holds_self (code : List Instr) : (⟨code.toArray⟩ : Program).Holds 0 code := by
  suffices h : ∀ before after : List Instr,
      (⟨(before ++ after).toArray⟩ : Program).Holds before.length after from h [] code
  intro before after
  induction after generalizing before with
  | nil => trivial
  | cons instr after ih =>
    refine ⟨by simp, ?_⟩
    have := ih (before ++ [instr])
    simpa using this

/-- Acceptance can be reached in so many steps over one instruction, which stands at `pc`. -/
def Through (p : Program) (text : Array Char) (n pc pos : Nat) : Instr → Prop
  | .accept => n = 0
  | .set s => (∃ c, text[pos]? = some c ∧ s.contains c = true) ∧
      ∃ m < n, p.Accepts text m (pc + 1) (pos + 1)
  | .look l => l.holdsAt text pos = true ∧ ∃ m < n, p.Accepts text m (pc + 1) pos
  | .save _ => ∃ m < n, p.Accepts text m (pc + 1) pos
  | .jump target => ∃ m < n, p.Accepts text m target pos
  | .fork first second => ∃ m < n, p.Accepts text m first pos ∨ p.Accepts text m second pos

theorem through_of_accepts {n pc pos : Nat} {instr : Instr} (h : p.code[pc]? = some instr)
    (accepts : p.Accepts text n pc pos) : p.Through text n pc pos instr := by
  cases accepts with
  | here instr' =>
    obtain rfl := Option.some.inj (h.symm.trans instr')
    rfl
  | step leads later =>
    cases leads with
    | set instr' here mem =>
      obtain rfl := Option.some.inj (h.symm.trans instr')
      exact ⟨⟨_, here, mem⟩, _, Nat.lt_succ_self _, later⟩
    | look instr' holds =>
      obtain rfl := Option.some.inj (h.symm.trans instr')
      exact ⟨holds, _, Nat.lt_succ_self _, later⟩
    | save instr' | jump instr' =>
      obtain rfl := Option.some.inj (h.symm.trans instr')
      exact ⟨_, Nat.lt_succ_self _, later⟩
    | first instr' =>
      obtain rfl := Option.some.inj (h.symm.trans instr')
      exact ⟨_, Nat.lt_succ_self _, .inl later⟩
    | second instr' =>
      obtain rfl := Option.some.inj (h.symm.trans instr')
      exact ⟨_, Nat.lt_succ_self _, .inr later⟩

/-- A branch goes inside or outside, whichever is preferred. -/
theorem branch_of_accepts {n pc pos inside outside : Nat} {greedy : Bool}
    (h : p.code[pc]? = some (.branch greedy inside outside)) (accepts : p.Accepts text n pc pos) :
    ∃ m < n, p.Accepts text m inside pos ∨ p.Accepts text m outside pos := by
  have through := through_of_accepts h accepts
  cases greedy with
  | true => exact through
  | false =>
    obtain ⟨m, hm, hout | hin⟩ := through
    · exact ⟨m, hm, .inr hout⟩
    · exact ⟨m, hm, .inl hin⟩

theorem live_branch {pc pos inside outside : Nat} {greedy : Bool}
    (h : p.code[pc]? = some (.branch greedy inside outside))
    (live : p.Live text inside pos ∨ p.Live text outside pos) : p.Live text pc pos := by
  cases greedy with
  | true => exact live.elim (Live.step (.first h)) (Live.step (.second h))
  | false => exact live.elim (Live.step (.second h)) (Live.step (.first h))

/-! ## 3. Code comes past its end over what matches -/

/-- Between two addresses, acceptance is reached over certain stretches only. -/
def Passes (p : Program) (text : Array Char) (stretch : Nat → Nat → Prop) (start finish : Nat) :
    Prop :=
  ∀ n i, p.Accepts text n start i → ∃ m ≤ n, ∃ j, stretch i j ∧ p.Accepts text m finish j

/-- Between two addresses, acceptance is reached over all of certain stretches. -/
def Admits (p : Program) (text : Array Char) (stretch : Nat → Nat → Prop) (start finish : Nat) :
    Prop :=
  ∀ i j, stretch i j → p.Live text finish j → p.Live text start i

variable {stretch : Nat → Nat → Prop}

/-- A loop: whoever comes to its back goes inside again or leaves it. -/
theorem rounds_of_accepts {inside back finish : Nat} (body : p.Passes text stretch inside back)
    (again : ∀ n k, p.Accepts text n back k →
      ∃ m < n, p.Accepts text m inside k ∨ p.Accepts text m finish k) :
    p.Passes text (fun i j => ∃ r, Rounds stretch (r + 1) i j) inside finish := by
  intro n
  induction n using Nat.strong_induction_on with
  | _ n ih =>
    intro i accepts
    obtain ⟨m, hm, k, hk, hback⟩ := body n i accepts
    obtain ⟨m', hm', hin | hout⟩ := again m k hback
    · obtain ⟨m'', hm'', j, ⟨r, hr⟩, hj⟩ := ih m' (by omega) k hin
      exact ⟨m'', by omega, j, ⟨r + 1, k, hk, hr⟩, hj⟩
    · exact ⟨m', by omega, k, ⟨0, k, hk, rfl⟩, hout⟩

theorem live_of_rounds {inside back finish : Nat} (body : p.Admits text stretch inside back)
    (again : ∀ k, p.Live text inside k ∨ p.Live text finish k → p.Live text back k) :
    ∀ (r i j : Nat), Rounds stretch (r + 1) i j → p.Live text finish j → p.Live text inside i
  | 0, i, j, ⟨k, hk, hr⟩, live => by
    obtain rfl : k = j := hr
    exact body i k hk (again k (.inr live))
  | r + 1, i, j, ⟨k, hk, hr⟩, live =>
    body i k hk (again k (.inl (live_of_rounds body again r k j hr live)))

/-- Copies of code pass as many rounds. -/
theorem passes_copies {code : Nat → List Instr} {size : Nat} (hsize : ∀ b, (code b).length = size)
    (body : ∀ b, p.Holds b (code b) → p.Passes text stretch b (b + size)) :
    ∀ (k base : Nat), p.Holds base (Expr.copies code size base k) →
      p.Passes text (Rounds stretch k) base (base + k * size)
  | 0, base, _, n, i, accepts => ⟨n, Nat.le_refl _, i, rfl, by simpa using accepts⟩
  | k + 1, base, holds, n, i, accepts => by
    rw [Expr.copies, holds_append, hsize] at holds
    obtain ⟨m, hm, l, hl, hmid⟩ := body base holds.1 n i accepts
    obtain ⟨m', hm', j, hj, hend⟩ :=
      passes_copies hsize body k (base + size) holds.2 m l hmid
    refine ⟨m', by omega, j, ⟨l, hl, hj⟩, ?_⟩
    rwa [Nat.add_one_mul, Nat.add_comm (k * size), ← Nat.add_assoc]

theorem admits_copies {code : Nat → List Instr} {size : Nat} (hsize : ∀ b, (code b).length = size)
    (body : ∀ b, p.Holds b (code b) → p.Admits text stretch b (b + size)) :
    ∀ (k base : Nat), p.Holds base (Expr.copies code size base k) →
      p.Admits text (Rounds stretch k) base (base + k * size)
  | 0, base, _, i, j, h, live => by
    obtain rfl : i = j := h
    simpa using live
  | k + 1, base, holds, i, j, ⟨l, hl, hj⟩, live => by
    rw [Expr.copies, holds_append, hsize] at holds
    refine body base holds.1 i l hl ?_
    refine admits_copies hsize body k (base + size) holds.2 l j hj ?_
    rwa [Nat.add_one_mul, Nat.add_comm (k * size), ← Nat.add_assoc] at live

/-- Optional copies pass as many rounds at most. -/
theorem passes_options {greedy : Bool} {code : Nat → List Instr} {size finish : Nat}
    (hsize : ∀ b, (code b).length = size)
    (body : ∀ b, p.Holds b (code b) → p.Passes text stretch b (b + size)) :
    ∀ (k base : Nat), p.Holds base (Expr.options greedy code size finish base k) →
      base + k * (size + 1) = finish →
        p.Passes text (fun i j => ∃ r ≤ k, Rounds stretch r i j) base finish
  | 0, base, _, hfinish, n, i, accepts => by
    obtain rfl : base = finish := by simpa using hfinish
    exact ⟨n, Nat.le_refl _, i, ⟨0, Nat.le_refl _, rfl⟩, accepts⟩
  | k + 1, base, holds, hfinish, n, i, accepts => by
    rw [Expr.options, List.cons_append, Holds, holds_append, hsize] at holds
    obtain ⟨hbranch, hcode, hrest⟩ := holds
    obtain ⟨m, hm, hin | hout⟩ := branch_of_accepts hbranch accepts
    · obtain ⟨m', hm', l, hl, hmid⟩ := body (base + 1) hcode m i hin
      have hbase : base + 1 + size = base + size + 1 := by omega
      rw [hbase] at hmid hrest
      have hfinish' : base + size + 1 + k * (size + 1) = finish := by
        rw [← hfinish, Nat.add_one_mul]
        omega
      obtain ⟨m'', hm'', j, ⟨r, hr, hj⟩, hend⟩ :=
        passes_options hsize body k (base + size + 1) hrest hfinish' m' l hmid
      exact ⟨m'', by omega, j, ⟨r + 1, by omega, l, hl, hj⟩, hend⟩
    · exact ⟨m, by omega, i, ⟨0, Nat.zero_le _, rfl⟩, hout⟩

theorem admits_options {greedy : Bool} {code : Nat → List Instr} {size finish : Nat}
    (hsize : ∀ b, (code b).length = size)
    (body : ∀ b, p.Holds b (code b) → p.Admits text stretch b (b + size)) :
    ∀ (k base : Nat), p.Holds base (Expr.options greedy code size finish base k) →
      base + k * (size + 1) = finish →
        p.Admits text (fun i j => ∃ r ≤ k, Rounds stretch r i j) base finish
  | 0, base, _, hfinish, i, j, ⟨r, hr, hj⟩, live => by
    obtain rfl : r = 0 := Nat.le_zero.mp hr
    obtain rfl : i = j := hj
    obtain rfl : base = finish := by simpa using hfinish
    exact live
  | k + 1, base, holds, hfinish, i, j, ⟨r, hr, hj⟩, live => by
    rw [Expr.options, List.cons_append, Holds, holds_append, hsize] at holds
    obtain ⟨hbranch, hcode, hrest⟩ := holds
    refine live_branch hbranch ?_
    cases r with
    | zero =>
      obtain rfl : i = j := hj
      exact .inr live
    | succ r =>
      obtain ⟨l, hl, hj⟩ := hj
      have hbase : base + 1 + size = base + size + 1 := by omega
      rw [hbase] at hrest
      have hfinish' : base + size + 1 + k * (size + 1) = finish := by
        rw [← hfinish, Nat.add_one_mul]
        omega
      refine .inl (body (base + 1) hcode i l hl ?_)
      rw [hbase]
      exact admits_options hsize body k (base + size + 1) hrest hfinish' l j
        ⟨r, by omega, hj⟩ live

theorem copies_succ (code : Nat → List Instr) (size : Nat) : ∀ (k base : Nat),
    Expr.copies code size base (k + 1) = Expr.copies code size base k ++ code (base + k * size)
  | 0, base => by simp [Expr.copies]
  | k + 1, base => by
    rw [Expr.copies, copies_succ code size k, Expr.copies, List.append_assoc, Nat.add_one_mul,
      Nat.add_comm (k * size), Nat.add_assoc]

variable {e : Expr} {base min max : Nat} {greedy : Bool}

/-- A repetition that may be left at once: the way in, and the way back from the body. -/
theorem holds_star (h : p.Holds base ((Expr.repetition 0 none greedy e).code base)) :
    p.code[base]? = some (.branch greedy (base + 1) (base + e.size + 2)) ∧
      p.Holds (base + 1) (e.code (base + 1)) ∧
      (p.code[base + 1 + e.size]? = some (.branch greedy (base + 1) (base + e.size + 2)) ∨
        p.code[base + 1 + e.size]? = some (.jump base)) := by
  rw [Expr.code] at h
  split at h <;> simp only [List.cons_append, Holds, holds_append, Expr.length_code] at h
  · exact ⟨h.1, h.2.1, .inl h.2.2.1⟩
  · exact ⟨h.1, h.2.1, .inr h.2.2.1⟩

/-- A repetition that has to be gone through: all copies but the last, the last, and the way back. -/
theorem holds_plus (h : p.Holds base ((Expr.repetition (min + 1) none greedy e).code base)) :
    p.Holds base (Expr.copies (fun b => e.code b) e.size base min) ∧
      p.Holds (base + min * e.size) (e.code (base + min * e.size)) ∧
      p.code[base + min * e.size + e.size]? =
        some (.branch greedy (base + min * e.size) (base + min * e.size + e.size + 1)) := by
  rw [Expr.code, copies_succ, holds_append, holds_append, List.length_append,
    Expr.length_copies (fun b => e.length_code b), Expr.length_code] at h
  obtain ⟨⟨hcopies, hlast⟩, hback, -⟩ := h
  refine ⟨hcopies, hlast, ?_⟩
  rwa [← Nat.add_assoc] at hback

/-- A repetition up to a number: the copies that have to be gone through and the optional ones. -/
theorem holds_counted (h : p.Holds base ((Expr.repetition min (some max) greedy e).code base)) :
    p.Holds base (Expr.copies (fun b => e.code b) e.size base min) ∧
      p.Holds (base + min * e.size)
        (Expr.options greedy (fun b => e.code b) e.size
          (base + min * e.size + (max - min) * (e.size + 1)) (base + min * e.size) (max - min)) := by
  rwa [Expr.code, holds_append, Expr.length_copies (fun b => e.length_code b)] at h

/-- **Code passes over nothing but what its expression matches.** -/
theorem passes_code : ∀ (e : Expr) (base : Nat), p.Holds base (e.code base) →
    p.Passes text (e.Matches text) base (base + e.size)
  | .empty, base, _, n, i, accepts => ⟨n, Nat.le_refl _, i, rfl, accepts⟩
  | .set s, base, ⟨h, _⟩, n, i, accepts => by
    obtain ⟨hchar, m, hm, later⟩ := through_of_accepts h accepts
    exact ⟨m, by omega, i + 1, ⟨rfl, hchar⟩, later⟩
  | .look l, base, ⟨h, _⟩, n, i, accepts => by
    obtain ⟨holds, m, hm, later⟩ := through_of_accepts h accepts
    exact ⟨m, by omega, i, ⟨rfl, holds⟩, later⟩
  | .group none e, base, holds, n, i, accepts => passes_code e base holds n i accepts
  | .group (some index) e, base, holds, n, i, accepts => by
    rw [Expr.code, List.cons_append, Holds, holds_append, Expr.length_code] at holds
    obtain ⟨hopen, hcode, hclose, -⟩ := holds
    obtain ⟨m, hm, hbody⟩ := through_of_accepts hopen accepts
    obtain ⟨m', hm', j, hj, hafter⟩ := passes_code e (base + 1) hcode m i hbody
    obtain ⟨m'', hm'', hend⟩ := through_of_accepts hclose hafter
    refine ⟨m'', by omega, j, hj, ?_⟩
    rwa [show base + 1 + e.size + 1 = base + (Expr.group (some index) e).size by
      simp only [Expr.size]; omega] at hend
  | .concat a b, base, holds, n, i, accepts => by
    rw [Expr.code, holds_append, Expr.length_code] at holds
    obtain ⟨m, hm, k, hk, hmid⟩ := passes_code a base holds.1 n i accepts
    obtain ⟨m', hm', j, hj, hend⟩ := passes_code b (base + a.size) holds.2 m k hmid
    refine ⟨m', by omega, j, ⟨k, hk, hj⟩, ?_⟩
    rwa [Nat.add_assoc] at hend
  | .alternate a b, base, holds, n, i, accepts => by
    simp only [Expr.code, List.cons_append, Holds, holds_append, Expr.length_code] at holds
    obtain ⟨hfork, ha, hjump, hb⟩ := holds
    obtain ⟨m, hm, hfirst | hsecond⟩ := through_of_accepts hfork accepts
    · obtain ⟨m', hm', j, hj, hmid⟩ := passes_code a (base + 1) ha m i hfirst
      obtain ⟨m'', hm'', hend⟩ := through_of_accepts hjump hmid
      refine ⟨m'', by omega, j, .inl hj, ?_⟩
      rwa [show base + a.size + 2 + b.size = base + (Expr.alternate a b).size by
        simp only [Expr.size]; omega] at hend
    · have hb' : p.Holds (base + a.size + 2) (b.code (base + a.size + 2)) := by
        rwa [show base + 1 + a.size + 1 = base + a.size + 2 by omega] at hb
      obtain ⟨m', hm', j, hj, hend⟩ := passes_code b _ hb' m i hsecond
      refine ⟨m', by omega, j, .inr hj, ?_⟩
      rwa [show base + a.size + 2 + b.size = base + (Expr.alternate a b).size by
        simp only [Expr.size]; omega] at hend
  | .repetition 0 none greedy e, base, holds, n, i, accepts => by
    obtain ⟨hbranch, hcode, hback⟩ := holds_star holds
    have again (n k : Nat) (h : p.Accepts text n (base + 1 + e.size) k) :
        ∃ m < n, p.Accepts text m (base + 1) k ∨ p.Accepts text m (base + e.size + 2) k := by
      rcases hback with hback | hback
      · exact branch_of_accepts hback h
      · obtain ⟨m, hm, hstart⟩ := through_of_accepts hback h
        obtain ⟨m', hm', hbranched⟩ := branch_of_accepts hbranch hstart
        exact ⟨m', by omega, hbranched⟩
    obtain ⟨m, hm, hin | hout⟩ := branch_of_accepts hbranch accepts
    · obtain ⟨m', hm', j, ⟨r, hr⟩, hend⟩ :=
        rounds_of_accepts (passes_code e (base + 1) hcode) again m i hin
      exact ⟨m', by omega, j, ⟨r + 1, by simp, by rwa [Nat.zero_add]⟩, hend⟩
    · exact ⟨m, by omega, i, ⟨0, by simp, rfl⟩, hout⟩
  | .repetition (min + 1) none greedy e, base, holds, n, i, accepts => by
    obtain ⟨hcopies, hlast, hback⟩ := holds_plus holds
    obtain ⟨m, hm, k, hk, hmid⟩ :=
      passes_copies (fun b => e.length_code b) (fun b => passes_code e b) min base hcopies n i accepts
    obtain ⟨m', hm', j, ⟨r, hr⟩, hend⟩ :=
      rounds_of_accepts (passes_code e _ hlast) (fun n k => branch_of_accepts hback) m k hmid
    refine ⟨m', by omega, j, ⟨r, by simp, ?_⟩, ?_⟩
    · rw [Nat.add_assoc, Nat.add_comm 1, rounds_add]
      exact ⟨k, hk, hr⟩
    · rwa [show base + min * e.size + e.size + 1 =
        base + (Expr.repetition (min + 1) none greedy e).size by
          simp only [Expr.size, Nat.add_one_mul]; omega] at hend
  | .repetition min (some max) greedy e, base, holds, n, i, accepts => by
    obtain ⟨hcopies, hoptions⟩ := holds_counted holds
    obtain ⟨m, hm, k, hk, hmid⟩ :=
      passes_copies (fun b => e.length_code b) (fun b => passes_code e b) min base hcopies n i accepts
    obtain ⟨m', hm', j, ⟨r, hr, hj⟩, hend⟩ :=
      passes_options (fun b => e.length_code b) (fun b => passes_code e b) (max - min) _ hoptions rfl
        m k hmid
    refine ⟨m', by omega, j, ⟨r, ?_, (rounds_add min r i j).mpr ⟨k, hk, hj⟩⟩, ?_⟩
    · intro most hmost
      obtain rfl := Option.some.inj hmost
      exact hr
    · rw [Expr.size]
      rwa [Nat.add_assoc] at hend

/-- **Code passes over all that its expression matches.** -/
theorem admits_code : ∀ (e : Expr) (base : Nat), p.Holds base (e.code base) →
    p.Admits text (e.Matches text) base (base + e.size)
  | .empty, base, _, i, j, h, live => by
    obtain rfl : i = j := h
    exact live
  | .set s, base, ⟨hinstr, _⟩, i, j, ⟨hj, c, here, mem⟩, live => by
    obtain rfl := hj
    exact Live.step (.set hinstr here mem) live
  | .look l, base, ⟨hinstr, _⟩, i, j, ⟨hj, holds⟩, live => by
    obtain rfl := hj
    exact Live.step (.look hinstr holds) live
  | .group none e, base, holds, i, j, h, live => admits_code e base holds i j h live
  | .group (some index) e, base, holds, i, j, h, live => by
    rw [Expr.code, List.cons_append, Holds, holds_append, Expr.length_code] at holds
    obtain ⟨hopen, hcode, hclose, -⟩ := holds
    refine Live.step (.save hopen) (admits_code e (base + 1) hcode i j h (Live.step (.save hclose) ?_))
    rwa [show base + (Expr.group (some index) e).size = base + 1 + e.size + 1 by
      simp only [Expr.size]; omega] at live
  | .concat a b, base, holds, i, j, ⟨k, hk, hj⟩, live => by
    rw [Expr.code, holds_append, Expr.length_code] at holds
    refine admits_code a base holds.1 i k hk (admits_code b (base + a.size) holds.2 k j hj ?_)
    rwa [Nat.add_assoc]
  | .alternate a b, base, holds, i, j, h, live => by
    simp only [Expr.code, List.cons_append, Holds, holds_append, Expr.length_code] at holds
    obtain ⟨hfork, ha, hjump, hb⟩ := holds
    rw [show base + (Expr.alternate a b).size = base + a.size + 2 + b.size by
      simp only [Expr.size]; omega] at live
    rcases h with h | h
    · exact Live.step (.first hfork)
        (admits_code a (base + 1) ha i j h (Live.step (.jump hjump) live))
    · have hb' : p.Holds (base + a.size + 2) (b.code (base + a.size + 2)) := by
        rwa [show base + 1 + a.size + 1 = base + a.size + 2 by omega] at hb
      exact Live.step (.second hfork) (admits_code b _ hb' i j h live)
  | .repetition 0 none greedy e, base, holds, i, j, ⟨extra, _, h⟩, live => by
    obtain ⟨hbranch, hcode, hback⟩ := holds_star holds
    have again (k : Nat)
        (h : p.Live text (base + 1) k ∨ p.Live text (base + e.size + 2) k) :
        p.Live text (base + 1 + e.size) k := by
      rcases hback with hback | hback
      · exact live_branch hback h
      · exact Live.step (.jump hback) (live_branch hbranch h)
    refine live_branch hbranch ?_
    rw [Nat.zero_add] at h
    cases extra with
    | zero =>
      obtain rfl : i = j := h
      exact .inr live
    | succ r =>
      exact .inl (live_of_rounds (admits_code e (base + 1) hcode) again r i j h live)
  | .repetition (min + 1) none greedy e, base, holds, i, j, ⟨extra, _, h⟩, live => by
    obtain ⟨hcopies, hlast, hback⟩ := holds_plus holds
    rw [Nat.add_assoc, Nat.add_comm 1, rounds_add] at h
    obtain ⟨k, hk, hj⟩ := h
    rw [show base + (Expr.repetition (min + 1) none greedy e).size =
      base + min * e.size + e.size + 1 by simp only [Expr.size, Nat.add_one_mul]; omega] at live
    refine admits_copies (fun b => e.length_code b) (fun b => admits_code e b) min base hcopies i k hk ?_
    exact live_of_rounds (admits_code e _ hlast) (fun k => live_branch hback) extra k j hj live
  | .repetition min (some max) greedy e, base, holds, i, j, ⟨extra, hmost, h⟩, live => by
    obtain ⟨hcopies, hoptions⟩ := holds_counted holds
    obtain ⟨k, hk, hj⟩ := (rounds_add min extra i j).mp h
    refine admits_copies (fun b => e.length_code b) (fun b => admits_code e b) min base hcopies i k hk ?_
    refine admits_options (fun b => e.length_code b) (fun b => admits_code e b) (max - min) _ hoptions rfl
      k j ⟨extra, hmost max rfl, hj⟩ ?_
    rw [Expr.size] at live
    rwa [Nat.add_assoc]

/-- Code with acceptance after it is live where its expression matches a stretch. -/
theorem live_code_iff (e : Expr) {base : Nat} (holds : p.Holds base (e.code base ++ [.accept]))
    (i : Nat) : p.Live text base i ↔ ∃ j, e.Matches text i j := by
  rw [holds_append, Expr.length_code] at holds
  obtain ⟨hcode, haccept, -⟩ := holds
  constructor
  · rintro ⟨n, accepts⟩
    obtain ⟨m, -, j, hj, -⟩ := passes_code e base hcode n i accepts
    exact ⟨j, hj⟩
  · rintro ⟨j, hj⟩
    exact admits_code e base hcode i j hj ⟨0, .here haccept⟩

/-- The program of an expression is live where the expression matches a stretch. -/
theorem live_ofExpr_iff (e : Expr) (i : Nat) :
    (ofExpr e).Live text 0 i ↔ ∃ j, e.Matches text i j := live_code_iff e (holds_self _) i

/-- **A search succeeds exactly if the expression matches some stretch of the text.** -/
theorem find?_ofExpr_iff (e : Expr) (text : Array Char) :
    ((ofExpr e).find? text).isSome = true ↔ ∃ i ≤ text.size, ∃ j, e.Matches text i j := by
  rw [find?_isSome_iff]
  simp only [live_ofExpr_iff]

end Program

end DocTables.Regex
