/-
# What plain templates capture

A name matches a plain template if texts of letters and digits can be put in place of the
placeholders such that the name comes out, up to case in the text between them (`Template.Fits`).
There can be several such texts, where placeholders stand next to each other or a letter after a
placeholder could as well belong to it.  What is captured are the texts whose lengths come first in
the order of the placeholders (`Template.Shortest`).

The machine leaves a run at the first place from which the rest of the template can be matched
(`Loop.gives`).  So by recursion over the pieces it finds, for what is left of them from any place, the
least texts, and notes where they stand (`HoldsTail.gives`).  With the names of the groups this is what
a plain template captures (`captures_plain`).
-/
import Mathlib
import DocTables.Proofs.Fields
import DocTables.Proofs.Pattern.PlainSource
import DocTables.Proofs.Regex.Preference

namespace DocTables

open Regex (Expr Notes Program)

/-! ## 1. Texts for placeholders -/

namespace Template

/-- The texts fit: in the places of the placeholders, in order, they give the name, up to case in the
text between them. -/
inductive Fits : List Piece → List (List Char) → List Char → Prop
  | nil : Fits [] [] []
  | literal {c d : Char} {pieces : List Piece} {texts : List (List Char)} {cs : List Char}
      (here : Text.sameFold c d = true) (later : Fits pieces texts cs) :
      Fits (.literal c :: pieces) texts (d :: cs)
  | placeholder {name : String} {run cs : List Char} {pieces : List Piece} {texts : List (List Char)}
      (here : ∀ c ∈ run, Text.isFoldedAlphanum c = true) (later : Fits pieces texts cs) :
      Fits (.placeholder name :: pieces) (run :: texts) (run ++ cs)

/-- Of the texts that fit, those whose lengths are least, compared in order. -/
structure Shortest (pieces : List Piece) (texts : List (List Char)) (cs : List Char) : Prop where
  fits : Fits pieces texts cs
  least : ∀ others, Fits pieces others cs → texts.map List.length ≤ others.map List.length

/-- A template with texts in the places of its placeholders. -/
def fill (captures : Dictionary) : List Piece → List Char
  | [] => []
  | .literal c :: pieces => c :: fill captures pieces
  | .placeholder name :: pieces => ((captures.get? name).getD "").toList ++ fill captures pieces

variable {pieces : List Piece} {texts others : List (List Char)} {cs : List Char}

/-- There is a text for every placeholder. -/
theorem Fits.length_eq (h : Fits pieces texts cs) : texts.length = (groupNames pieces).length := by
  induction h with
  | nil => rfl
  | literal here later ih => exact ih
  | placeholder here later ih => exact congrArg (· + 1) ih

theorem Fits.eq_of_lengths (h : Fits pieces texts cs) (h' : Fits pieces others cs)
    (lengths : texts.map List.length = others.map List.length) : texts = others := by
  induction h generalizing others with
  | nil =>
    cases h'
    rfl
  | literal here later ih =>
    cases h' with
    | literal here' later' => exact ih later' lengths
  | @placeholder name run cs pieces texts here later ih =>
    generalize hname : run ++ cs = name at h'
    cases h' with
    | @placeholder _ run' cs' _ texts' here' later' =>
      obtain ⟨hlength, hlengths⟩ := List.cons.inj lengths
      obtain ⟨rfl, rfl⟩ := List.append_inj hname hlength
      rw [ih later' hlengths]

/-- There is only one choice of least texts. -/
theorem Shortest.unique (h : Shortest pieces texts cs) (h' : Shortest pieces others cs) :
    texts = others :=
  h.fits.eq_of_lengths h'.fits (le_antisymm (h.least _ h'.fits) (h'.least _ h.fits))

theorem fits_literal_iff {c : Char} : Fits (.literal c :: pieces) texts cs ↔
    ∃ d rest, cs = d :: rest ∧ Text.sameFold c d = true ∧ Fits pieces texts rest := by
  constructor
  · intro h
    cases h with
    | literal here later => exact ⟨_, _, rfl, here, later⟩
  · rintro ⟨d, rest, rfl, here, later⟩
    exact .literal here later

theorem fits_placeholder_iff {name : String} : Fits (.placeholder name :: pieces) texts cs ↔
    ∃ run later rest, texts = run :: later ∧ cs = run ++ rest ∧
      (∀ c ∈ run, Text.isFoldedAlphanum c = true) ∧ Fits pieces later rest := by
  constructor
  · intro h
    cases h with
    | placeholder here later => exact ⟨_, _, _, rfl, rfl, here, later⟩
  · rintro ⟨run, later, rest, rfl, rfl, here, h⟩
    exact .placeholder here h

theorem Shortest.nil : Shortest [] [] [] := by
  refine ⟨.nil, fun others h => ?_⟩
  rw [List.eq_nil_of_length_eq_zero h.length_eq]

theorem Shortest.literal {c d : Char} (here : Text.sameFold c d = true)
    (h : Shortest pieces texts cs) : Shortest (.literal c :: pieces) texts (d :: cs) := by
  refine ⟨.literal here h.fits, fun others fits => ?_⟩
  obtain ⟨_, _, heq, -, fits'⟩ := fits_literal_iff.mp fits
  obtain ⟨rfl, rfl⟩ := List.cons.inj heq
  exact h.least others fits'

/-- The first run decides: it is as short as any after which the rest fits. -/
theorem Shortest.placeholder {name : String} {run : List Char}
    (here : ∀ c ∈ run, Text.isFoldedAlphanum c = true) (h : Shortest pieces texts cs)
    (first : ∀ run' rest, run ++ cs = run' ++ rest → (∃ later, Fits pieces later rest) →
      run.length ≤ run'.length) :
    Shortest (.placeholder name :: pieces) (run :: texts) (run ++ cs) := by
  refine ⟨.placeholder here h.fits, fun others fits => ?_⟩
  obtain ⟨run', later, rest, rfl, heq, -, fits'⟩ := fits_placeholder_iff.mp fits
  rcases Nat.lt_or_eq_of_le (first run' rest heq ⟨later, fits'⟩) with hlt | hlength
  · exact le_of_lt (List.Lex.rel hlt)
  · obtain ⟨rfl, rfl⟩ := List.append_inj heq hlength
    exact List.cons_le_cons _ (h.least later fits')

end Template

/-! ## 2. What is left of a text -/

section

variable {text : Array Char} {i : Nat} {c : Char} {cs : List Char}

theorem drop_of_getElem? (h : text[i]? = some c) :
    text.toList.drop i = c :: text.toList.drop (i + 1) := by
  obtain ⟨hi, rfl⟩ := Array.getElem?_eq_some_iff.mp h
  rw [← Array.getElem_toList, List.drop_eq_getElem_cons (by simpa using hi)]

theorem getElem?_of_drop (h : text.toList.drop i = c :: cs) :
    text[i]? = some c ∧ cs = text.toList.drop (i + 1) := by
  have hc : text[i]? = some c := by
    rw [← Array.getElem?_toList, ← List.head?_drop, h]
    rfl
  rw [drop_of_getElem? hc] at h
  exact ⟨hc, (List.cons.inj h).2.symm⟩

/-- What is left after a run starts at its end. -/
theorem drop_add_of_append {run : List Char} (h : text.toList.drop i = run ++ cs) :
    cs = text.toList.drop (i + run.length) := by
  rw [← List.drop_drop, h, List.drop_left]

theorem add_length_le_of_append {run : List Char} (hi : i ≤ text.size)
    (h : text.toList.drop i = run ++ cs) : i + run.length ≤ text.size := by
  have hlength := congrArg List.length h
  rw [List.length_drop, List.length_append, Array.length_toList] at hlength
  omega

end

/-! ## 3. What a plain template matches -/

namespace Template

open Regex (Rounds CharSet)

variable {text : Array Char}

/-- Rounds of one character each are a run of such characters. -/
theorem rounds_set_iff (s : CharSet) (n i k : Nat) : Rounds ((Expr.set s).Matches text) n i k ↔
    ∃ run : List Char, run.length = n ∧ (∀ c ∈ run, s.contains c = true) ∧ k = i + n ∧
      text.toList.drop i = run ++ text.toList.drop k := by
  induction n generalizing i with
  | zero =>
    constructor
    · rintro rfl
      exact ⟨[], rfl, List.forall_mem_nil _, rfl, rfl⟩
    · rintro ⟨run, -, -, rfl, -⟩
      rfl
  | succ n ih =>
    constructor
    · rintro ⟨_, ⟨rfl, c, here, mem⟩, later⟩
      obtain ⟨run, rfl, hrun, rfl, hdrop⟩ := (ih (i + 1)).mp later
      refine ⟨c :: run, rfl, List.forall_mem_cons.mpr ⟨mem, hrun⟩, by omega, ?_⟩
      rw [drop_of_getElem? here, hdrop]
      rfl
    · rintro ⟨run, hlength, hrun, rfl, hdrop⟩
      obtain ⟨c, run, rfl⟩ := List.exists_cons_of_length_eq_add_one hlength
      obtain ⟨mem, hrun⟩ := List.forall_mem_cons.mp hrun
      obtain ⟨here, hdrop⟩ := getElem?_of_drop hdrop
      refine ⟨i + 1, ⟨rfl, c, here, mem⟩, (ih (i + 1)).mpr
        ⟨run, Nat.succ.inj hlength, hrun, by omega, hdrop.symm⟩⟩

theorem matches_runExpr_iff (i k : Nat) : runExpr.Matches text i k ↔
    ∃ run : List Char, (∀ c ∈ run, Text.isFoldedAlphanum c = true) ∧ k = i + run.length ∧
      text.toList.drop i = run ++ text.toList.drop k := by
  constructor
  · rintro ⟨n, -, rounds⟩
    obtain ⟨run, hlength, hrun, hk, hdrop⟩ := (rounds_set_iff _ _ i k).mp rounds
    rw [← hlength] at hk
    exact ⟨run, fun c hc => CharSet.contains_folded_alphanum c ▸ hrun c hc, hk, hdrop⟩
  · rintro ⟨run, hrun, hk, hdrop⟩
    refine ⟨run.length, by simp, (rounds_set_iff _ _ i k).mpr ⟨run, by simp, ?_, by omega, hdrop⟩⟩
    exact fun c hc => (CharSet.contains_folded_alphanum c).trans (hrun c hc)

/-- **What is matched up to the end of a text**: what texts in the places of the placeholders give. -/
theorem exists_matches_tail_iff : ∀ (pieces : List Piece) (groups i : Nat), i ≤ text.size →
    ((∃ j, (tailExpr groups pieces).Matches text i j) ↔
      ∃ texts, Fits pieces texts (text.toList.drop i))
  | [], groups, i, hi => by
    constructor
    · rintro ⟨j, rfl, here⟩
      have hdrop : text.toList.drop i = [] :=
        List.drop_of_length_le ((Regex.Look.textFinish_holdsAt_iff i).mp here)
      exact ⟨[], hdrop ▸ .nil⟩
    · rintro ⟨texts, h⟩
      refine ⟨i, rfl, (Regex.Look.textFinish_holdsAt_iff i).mpr ?_⟩
      generalize hdrop : text.toList.drop i = rest at h
      cases h with
      | nil => exact List.drop_eq_nil_iff.mp hdrop
  | .literal c :: pieces, groups, i, hi => by
    have hcons (j : Nat) : (tailExpr groups (.literal c :: pieces)).Matches text i j ↔ _ :=
      Expr.matches_concatOf_cons _ _ i j
    simp only [hcons, fits_literal_iff]
    constructor
    · rintro ⟨j, _, ⟨rfl, d, here, mem⟩, later⟩
      obtain ⟨texts, h⟩ := (exists_matches_tail_iff pieces groups (i + 1)
        (Array.getElem?_eq_some_iff.mp here).1).mp ⟨j, later⟩
      rw [CharSet.contains_folded_single] at mem
      exact ⟨texts, d, _, drop_of_getElem? here, mem, h⟩
    · rintro ⟨texts, d, rest, hdrop, mem, h⟩
      obtain ⟨here, rfl⟩ := getElem?_of_drop hdrop
      obtain ⟨j, later⟩ := (exists_matches_tail_iff pieces groups (i + 1)
        (Array.getElem?_eq_some_iff.mp here).1).mpr ⟨texts, h⟩
      rw [← CharSet.contains_folded_single] at mem
      exact ⟨j, i + 1, ⟨rfl, d, here, mem⟩, later⟩
  | .placeholder name :: pieces, groups, i, hi => by
    have hcons (j : Nat) : (tailExpr groups (.placeholder name :: pieces)).Matches text i j ↔ _ :=
      Expr.matches_concatOf_cons _ _ i j
    simp only [hcons, fits_placeholder_iff]
    constructor
    · rintro ⟨j, k, hrun, later⟩
      obtain ⟨run, hall, rfl, hdrop⟩ := (matches_runExpr_iff i k).mp hrun
      obtain ⟨texts, h⟩ := (exists_matches_tail_iff pieces (groups + 1) _
        (add_length_le_of_append hi hdrop)).mp ⟨j, later⟩
      exact ⟨_, run, texts, _, rfl, hdrop, hall, h⟩
    · rintro ⟨_, run, texts, rest, rfl, hdrop, hall, h⟩
      obtain rfl := drop_add_of_append hdrop
      obtain ⟨j, later⟩ := (exists_matches_tail_iff pieces (groups + 1) _
        (add_length_le_of_append hi hdrop)).mpr ⟨texts, h⟩
      exact ⟨j, _, (matches_runExpr_iff i _).mpr ⟨run, hall, rfl, hdrop⟩, later⟩

/-! ## 4. The way of the machine -/

variable {p : Program} {base groups : Nat} {pieces : List Piece} {notes out : Notes}

/-- The program has the code of the pieces at an address and accepts after it. -/
def HoldsTail (p : Program) (base groups : Nat) (pieces : List Piece) : Prop :=
  p.Holds base ((tailExpr groups pieces).code base ++ [.accept])

/-- The instructions of a run: leave it, or take a character and come back. -/
structure Loop (p : Program) (base : Nat) : Prop where
  choose : p.code[base]? = some (.fork (base + 3) (base + 1))
  take : p.code[base + 1]? = some (.set (.folded .alphanum))
  again : p.code[base + 2]? = some (.jump base)

theorem code_concatOf_cons (e : Expr) (es : List Expr) (base : Nat) :
    (Expr.concatOf (e :: es)).code base = e.code base ++ (Expr.concatOf es).code (base + e.size) := by
  cases es with
  | nil => exact (List.append_nil _).symm
  | cons e' es => rfl

theorem HoldsTail.nil (h : HoldsTail p base groups []) :
    p.code[base]? = some (.look .textFinish) ∧ p.code[base + 1]? = some .accept := by
  obtain ⟨hlook, haccept, -⟩ := h
  exact ⟨hlook, haccept⟩

theorem HoldsTail.literal {c : Char} (h : HoldsTail p base groups (.literal c :: pieces)) :
    p.code[base]? = some (.set (.folded (.single c))) ∧ HoldsTail p (base + 1) groups pieces := by
  have hcode : (tailExpr groups (.literal c :: pieces)).code base = _ := code_concatOf_cons _ _ base
  rw [HoldsTail, hcode] at h
  exact h

theorem HoldsTail.placeholder {name : String}
    (h : HoldsTail p base groups (.placeholder name :: pieces)) :
    p.code[base]? = some (.save (2 * (groups + 1))) ∧ Loop p (base + 1) ∧
      p.code[base + 4]? = some (.save (2 * (groups + 1) + 1)) ∧
        HoldsTail p (base + 5) (groups + 1) pieces := by
  have hcode : (tailExpr groups (.placeholder name :: pieces)).code base = _ :=
    code_concatOf_cons _ _ base
  rw [HoldsTail, hcode] at h
  obtain ⟨hstart, hchoose, htake, hagain, hfinish, later⟩ := h
  exact ⟨hstart, ⟨hchoose, htake, hagain⟩, hfinish, later⟩

/-- The rest of a template can be matched where texts fit. -/
theorem HoldsTail.live_iff (h : HoldsTail p base groups pieces) {pos : Nat} (hpos : pos ≤ text.size) :
    p.Live text base pos ↔ ∃ texts, Fits pieces texts (text.toList.drop pos) := by
  rw [Program.live_code_iff _ h, exists_matches_tail_iff pieces groups pos hpos]

theorem Loop.ends (loop : Loop p base) (after : ∀ pos, p.Ends text (base + 3) pos) (pos : Nat) :
    p.Ends text base pos := by
  induction hleft : text.size - pos using Nat.strong_induction_on generalizing pos with
  | _ left ih =>
    refine .fork loop.choose (after pos) (.set loop.take fun hpos => .jump loop.again ?_)
    exact ih _ (by omega) (pos + 1) rfl

/-- All ways through the rest of a template end. -/
theorem HoldsTail.ends : ∀ {pieces : List Piece} {base groups : Nat},
    HoldsTail p base groups pieces → ∀ pos, p.Ends text base pos
  | [], _, _, h, _ => by
    obtain ⟨hlook, haccept⟩ := h.nil
    exact .look hlook (.accept haccept)
  | .literal _ :: _, _, _, h, pos => by
    obtain ⟨hset, later⟩ := h.literal
    exact .set hset fun _ => later.ends (pos + 1)
  | .placeholder _ :: _, _, _, h, pos => by
    obtain ⟨hstart, loop, hfinish, later⟩ := h.placeholder
    exact .save hstart (loop.ends (fun pos => .save hfinish (later.ends pos)) pos)

/-- **A run** is left at the first place from which the rest can be matched. -/
theorem Loop.gives (loop : Loop p base) {pos : Nat} (h : p.Gives text ⟨base, pos, notes⟩ out) :
    ∃ run : List Char, (∀ c ∈ run, Text.isFoldedAlphanum c = true) ∧
      text.toList.drop pos = run ++ text.toList.drop (pos + run.length) ∧
      (∀ m < run.length, ¬p.Live text (base + 3) (pos + m)) ∧
      p.Gives text ⟨base + 3, pos + run.length, notes⟩ out := by
  induction hleft : text.size - pos using Nat.strong_induction_on generalizing pos with
  | _ left ih =>
    -- the run goes on only where it cannot be left
    rcases h.fork loop.choose with out | ⟨dead, inside⟩
    · exact ⟨[], List.forall_mem_nil _, rfl, fun m hm => absurd hm (Nat.not_lt_zero m), out⟩
    · obtain ⟨c, here, mem, taken⟩ := inside.set loop.take
      have hpos := (Array.getElem?_eq_some_iff.mp here).1
      obtain ⟨run, hrun, hdrop, hdead, later⟩ :=
        ih _ (by omega) (taken.jump loop.again) rfl
      rw [CharSet.contains_folded_alphanum] at mem
      have hend : pos + 1 + run.length = pos + (c :: run).length := by
        rw [List.length_cons]
        omega
      rw [hend] at hdrop later
      refine ⟨c :: run, List.forall_mem_cons.mpr ⟨mem, hrun⟩, ?_, ?_, later⟩
      · rw [drop_of_getElem? here, hdrop, List.cons_append]
      · intro m hm
        cases m with
        | zero => exact dead
        | succ m =>
          have := hdead m (Nat.lt_of_succ_lt_succ hm)
          rwa [Nat.add_assoc, Nat.add_comm 1] at this

/-- What the machine has found for pieces from a place on: the least texts, noted under the numbers of
their groups. -/
structure Found (text : Array Char) (groups : Nat) (pieces : List Piece) (texts : List (List Char))
    (pos : Nat) (notes out : Notes) : Prop where
  shortest : Shortest pieces texts (text.toList.drop pos)
  kept : ∀ slot < 2 * (groups + 1), out.lookup slot = notes.lookup slot
  noted : (numbered groups pieces).map (fun e => out.group? text e.2) =
    (texts.map String.ofList).map some

/-- A group has matched the run between its notes. -/
theorem group?_eq_some {index pos : Nat} {run cs : List Char}
    (start : out.lookup (2 * index) = some pos)
    (finish : out.lookup (2 * index + 1) = some (pos + run.length))
    (h : text.toList.drop pos = run ++ cs) : out.group? text index = some (String.ofList run) := by
  have hrun : (text.extract pos (pos + run.length)).toList = run := by
    rw [Array.toList_extract, List.extract_eq_take_drop, Nat.add_sub_cancel_left, h, List.take_left]
  simp only [Notes.group?, start, finish, Option.bind_eq_bind, Option.bind_some, hrun]
  rfl

/-- **The rest of a template**: the machine finds the least texts that fit. -/
theorem HoldsTail.gives : ∀ {pieces : List Piece} {base groups pos : Nat} {notes : Notes},
    HoldsTail p base groups pieces → pos ≤ text.size → p.Gives text ⟨base, pos, notes⟩ out →
      ∃ texts, Found text groups pieces texts pos notes out
  | [], base, groups, pos, notes, h, hpos, gives => by
    obtain ⟨hlook, haccept⟩ := h.nil
    obtain ⟨here, later⟩ := gives.look hlook
    obtain rfl := later.eq_of_accept haccept
    have hdrop : text.toList.drop pos = [] :=
      List.drop_of_length_le ((Regex.Look.textFinish_holdsAt_iff pos).mp here)
    exact ⟨[], hdrop ▸ .nil, fun _ _ => rfl, rfl⟩
  | .literal c :: pieces, base, groups, pos, notes, h, hpos, gives => by
    obtain ⟨hset, later⟩ := h.literal
    obtain ⟨d, here, mem, gives'⟩ := gives.set hset
    obtain ⟨texts, found⟩ := later.gives (Array.getElem?_eq_some_iff.mp here).1 gives'
    rw [CharSet.contains_folded_single] at mem
    exact ⟨texts, drop_of_getElem? here ▸ .literal mem found.shortest, found.kept, found.noted⟩
  | .placeholder name :: pieces, base, groups, pos, notes, h, hpos, gives => by
    obtain ⟨hstart, loop, hfinish, later⟩ := h.placeholder
    obtain ⟨run, hrun, hdrop, hdead, left⟩ := loop.gives (gives.save hstart)
    have hend := add_length_le_of_append hpos hdrop
    obtain ⟨texts, found⟩ := later.gives hend (left.save hfinish)
    refine ⟨run :: texts, hdrop ▸ .placeholder hrun found.shortest ?_, ?_, ?_⟩
    · -- where the rest fits after a shorter run, the machine has left the run there
      intro run' rest heq fits
      have hdrop' := hdrop.trans heq
      obtain rfl := drop_add_of_append hdrop'
      have hlive := (later.live_iff (add_length_le_of_append hpos hdrop')).mpr fits
      exact Nat.le_of_not_lt fun hlt => hdead _ hlt (.step (.save hfinish) hlive)
    · intro slot hslot
      rw [found.kept slot (by omega), List.lookup_cons, List.lookup_cons,
        beq_false_of_ne (by omega), beq_false_of_ne (by omega)]
    · refine congrArg₂ List.cons ?_ found.noted
      have hstart' : out.lookup (2 * (groups + 1)) = some pos := by
        rw [found.kept _ (by omega), List.lookup_cons, beq_false_of_ne (by omega),
          List.lookup_cons_self]
      have hfinish' : out.lookup (2 * (groups + 1) + 1) = some (pos + run.length) := by
        rw [found.kept _ (by omega), List.lookup_cons_self]
      exact group?_eq_some hstart' hfinish' hdrop

/-- The program of a plain template. -/
def program (pieces : List Piece) : Program :=
  .ofExpr (.concat (.look .textStart) (tailExpr 0 pieces))

theorem isSome_find?_program_iff (pieces : List Piece) (text : Array Char) :
    ((program pieces).find? text).isSome = true ↔ ∃ texts, Fits pieces texts text.toList := by
  rw [program, Program.find?_ofExpr_iff]
  constructor
  · rintro ⟨i, hi, j, k, ⟨rfl, here⟩, hj⟩
    obtain rfl := (Regex.Look.textStart_holdsAt_iff hi).mp here
    exact (exists_matches_tail_iff pieces 0 0 hi).mp ⟨j, hj⟩
  · intro h
    obtain ⟨j, hj⟩ := (exists_matches_tail_iff pieces 0 0 (Nat.zero_le _)).mpr h
    exact ⟨0, Nat.zero_le _, j, 0,
      ⟨rfl, (Regex.Look.textStart_holdsAt_iff (Nat.zero_le _)).mpr rfl⟩, hj⟩

/-- **The search** of a name that matches finds the least texts. -/
theorem find?_program (text : Array Char) (h : ∃ texts, Fits pieces texts text.toList) :
    ∃ notes texts, (program pieces).find? text = some notes ∧
      Found text 0 pieces texts 0 [] notes := by
  have holds : (program pieces).Holds 0
      (.look .textStart :: ((tailExpr 0 pieces).code 1 ++ [.accept])) := Program.holds_self _
  obtain ⟨hlook, later⟩ := holds
  have hstart : Regex.Look.textStart.holdsAt text 0 = true :=
    (Regex.Look.textStart_holdsAt_iff (Nat.zero_le _)).mpr rfl
  have hlive : (program pieces).Live text 0 0 :=
    .step (.look hlook hstart) ((HoldsTail.live_iff later (Nat.zero_le _)).mpr h)
  have hends : (program pieces).Ends text 0 0 := .look hlook (HoldsTail.ends later 0)
  obtain ⟨notes, hmatch, gives⟩ := Program.matchAt_gives hends (Nat.zero_le _) hlive
  obtain ⟨texts, found⟩ := HoldsTail.gives later (Nat.zero_le _) (gives.look hlook).2
  refine ⟨notes, texts, ?_, found⟩
  rw [Program.find?, List.range_succ_eq_map, List.findSome?_cons, hmatch]

end Template

/-! ## 5. What is captured -/

namespace Dictionary

theorem get?_foldl_insert {k : String} : ∀ (es : List (String × String)) (d : Dictionary),
    k ∉ es.map Prod.fst → (es.foldl (fun d e => d.insert e.1 e.2) d).get? k = d.get? k
  | [], _, _ => rfl
  | e :: es, d, h => by
    rw [List.map_cons, List.mem_cons, not_or] at h
    exact (get?_foldl_insert es (d.insert e.1 e.2) h.2).trans (d.get?_insert_of_ne h.1 e.2)

theorem map_get?_foldl : ∀ (keys texts : List String) (d : Dictionary), keys.Nodup →
    texts.length = keys.length →
      keys.map ((keys.zip texts).foldl (fun d e => d.insert e.1 e.2) d).get? = texts.map some
  | [], texts, _, _, hlength => by
    rw [List.eq_nil_of_length_eq_zero hlength]
    rfl
  | key :: keys, texts, d, distinct, hlength => by
    obtain ⟨text, texts, rfl⟩ := List.exists_cons_of_length_eq_add_one hlength
    obtain ⟨hkey, distinct⟩ := List.nodup_cons.mp distinct
    have hlength := Nat.succ.inj hlength
    refine congrArg₂ List.cons ?_ (map_get?_foldl keys texts (d.insert key text) distinct hlength)
    have hzip : key ∉ (keys.zip texts).map Prod.fst := by
      rwa [List.map_fst_zip (Nat.le_of_eq hlength.symm)]
    exact (get?_foldl_insert _ _ hzip).trans (d.get?_insert_self key text)

/-- Texts under distinct keys are found again. -/
theorem map_get?_ofList {keys texts : List String} (distinct : keys.Nodup)
    (hlength : texts.length = keys.length) :
    keys.map (ofList (keys.zip texts)).get? = texts.map some :=
  map_get?_foldl keys texts empty distinct hlength

end Dictionary

/-- Whether two texts are equal up to case. -/
def Pattern.sameText : List Char → List Char → Bool
  | [], [] => true
  | a :: as, b :: bs => Text.sameFold a b && sameText as bs
  | _, _ => false

theorem Pattern.sameText_append (run : List Char) (as bs : List Char) :
    sameText (run ++ as) (run ++ bs) = sameText as bs := by
  induction run with
  | nil => rfl
  | cons c run ih => rw [List.cons_append, List.cons_append, sameText, Text.sameFold_self,
      ih, Bool.true_and]

namespace Template

/-- What the groups have matched, under their names. -/
theorem filterMap_group {group : String × Nat → Option String} :
    ∀ {es : List (String × Nat)} {found : List String}, es.map group = found.map some →
      (es.filterMap fun e => (group e).map (e.1, ·)) = (es.map Prod.fst).zip found
  | [], found, h => by
    rw [List.map_eq_nil_iff.mp h.symm]
    rfl
  | e :: es, found, h => by
    cases found with
    | nil => cases h
    | cons text found =>
      obtain ⟨here, later⟩ := List.cons.inj h
      rw [List.filterMap_cons_some (by rw [here]; rfl), filterMap_group later]
      rfl

/-- Texts that fit give the name back, up to case. -/
theorem Fits.sameText_fill {captures : Dictionary} {pieces : List Piece} {texts : List (List Char)}
    {cs : List Char} (h : Fits pieces texts cs)
    (captured : (groupNames pieces).map captures.get? = (texts.map String.ofList).map some) :
    Pattern.sameText (fill captures pieces) cs = true := by
  induction h with
  | nil => rfl
  | literal here later ih =>
    rw [fill, Pattern.sameText, here, ih captured]
    rfl
  | placeholder here later ih =>
    obtain ⟨first, captured⟩ := List.cons.inj captured
    rw [fill, first, Option.getD_some, String.toList_ofList, Pattern.sameText_append,
      ih captured]

end Template

namespace Pattern

/-- Nothing is captured from a name that does not match. -/
theorem captures_of_not_isMatch {p : Pattern} {name : String} (h : p.isMatch name = false) :
    p.captures name = .empty := by
  unfold isMatch at h
  unfold captures
  cases hmatcher : p.matcher with
  | regex r =>
    simp only [hmatcher, Regex.isMatch, Option.isSome_eq_false_iff, Option.isNone_iff_eq_none] at h
    simp only [h]
  | never => rfl

variable {template : String}

theorem captures_ofTemplate {regex : Regex} {notes : Notes} {name : String}
    (compiles : Regex.ofText? (Template.source (Template.pieces template)) = some regex)
    (hfind : regex.find? name.toList.toArray = some notes) :
    (ofTemplate template).captures name = .ofList
      ((Template.placeholders (Template.pieces template)).filterMap fun placeholder =>
        (regex.named? name.toList.toArray notes placeholder).map (placeholder, ·)) := by
  simp only [captures, ofTemplate, compiles, hfind]

/-- The placeholders of a plain template with the least texts. -/
theorem captures_found {pieces : List Template.Piece} (plain : Template.Plain pieces)
    {text : Array Char} {texts : List (List Char)} {notes : Notes} {program : Program}
    (found : Template.Found text 0 pieces texts 0 [] notes) :
    ((Template.placeholders pieces).filterMap fun placeholder =>
      (Regex.named? ⟨program, (Template.numbered 0 pieces).reverse⟩ text notes placeholder).map
        (placeholder, ·)) = (Template.placeholders pieces).zip (texts.map String.ofList) := by
  have hdistinct : (⟨(Template.numbered 0 pieces).reverse⟩ : Fields Nat).Distinct := by
    rw [Fields.Distinct, Fields.keys, List.map_reverse, List.nodup_reverse,
      Template.map_fst_numbered]
    exact plain.distinct
  have hnamed : ∀ e ∈ Template.numbered 0 pieces,
      Regex.named? ⟨program, (Template.numbered 0 pieces).reverse⟩ text notes e.1 =
        notes.group? text e.2 := by
    intro e he
    have hlookup : (Template.numbered 0 pieces).reverse.lookup e.1 = some e.2 :=
      hdistinct.get?_eq_some (List.mem_reverse.mpr he)
    rw [Regex.named?, hlookup]
    rfl
  rw [plain.placeholders_eq, ← Template.map_fst_numbered 0 pieces, List.filterMap_map,
    ← Template.filterMap_group found.noted]
  exact List.filterMap_congr fun e he => by rw [Function.comp_apply, hnamed e he]

/-- **What a plain template matches and captures**, if it is small enough.  A name matches exactly if
texts of letters and digits in the places of the placeholders give it, up to case in the text between
them.  Captured are the texts that are least when their lengths are compared in order, of which there
is one choice; put back in their places they give the name, up to case. -/
theorem captures_plain (plain : Template.Plain (Template.pieces template))
    (small : (Regex.parse? (Template.source (Template.pieces template))).all (·.expr.fits) = true)
    (name : String) :
    ((ofTemplate template).isMatch name = true ↔
      ∃ texts, Template.Fits (Template.pieces template) texts name.toList) ∧
    ((ofTemplate template).isMatch name = true →
      ∃ texts, Template.Shortest (Template.pieces template) texts name.toList ∧
        (∀ others, Template.Shortest (Template.pieces template) others name.toList →
          others = texts) ∧
        (ofTemplate template).captures name = .ofList
          ((Template.placeholders (Template.pieces template)).zip (texts.map String.ofList)) ∧
        (Template.placeholders (Template.pieces template)).map
          ((ofTemplate template).captures name).get? = (texts.map String.ofList).map some ∧
        sameText (Template.fill ((ofTemplate template).captures name) (Template.pieces template))
          name.toList = true) ∧
    ((ofTemplate template).isMatch name = false →
      (ofTemplate template).captures name = .empty) := by
  have hparse := Regex.parse?_source plain
  rw [hparse, Option.all_some] at small
  have compiles := Regex.ofText?_eq_some_iff.mpr ⟨_, hparse, small, rfl⟩
  have hmatch : (ofTemplate template).isMatch name = true ↔
      ∃ texts, Template.Fits (Template.pieces template) texts name.toList := by
    rw [isMatch_ofTemplate compiles]
    exact Template.isSome_find?_program_iff _ name.toList.toArray
  refine ⟨hmatch, fun h => ?_, captures_of_not_isMatch⟩
  obtain ⟨notes, texts, hfind, found⟩ :=
    Template.find?_program name.toList.toArray (hmatch.mp h)
  have hcaptures := captures_ofTemplate compiles hfind
  rw [captures_found plain found] at hcaptures
  have hget : (Template.placeholders (Template.pieces template)).map
      ((ofTemplate template).captures name).get? = (texts.map String.ofList).map some := by
    rw [hcaptures]
    refine Dictionary.map_get?_ofList (plain.placeholders_eq ▸ plain.distinct) ?_
    rw [plain.placeholders_eq, List.length_map, found.shortest.fits.length_eq]
  refine ⟨texts, found.shortest, fun others h => h.unique found.shortest, hcaptures, hget,
    found.shortest.fits.sameText_fill ?_⟩
  rwa [plain.placeholders_eq] at hget

/-- A template whose text can belong to its first placeholder as well. -/
def letterTemplate : String := "\x7b\x7ba\x7d\x7dx\x7b\x7bb\x7d\x7d"

/-- Where several texts fit, the first placeholder gets as little as it can. -/
theorem captures_plain_letter : Template.Plain (Template.pieces letterTemplate) ∧
    (Regex.parse? (Template.source (Template.pieces letterTemplate))).all (·.expr.fits) = true ∧
    (ofTemplate letterTemplate).isMatch "XxX1" = true ∧
    ∃ texts, Template.Shortest (Template.pieces letterTemplate) texts "XxX1".toList ∧
      texts.map String.ofList = ["", "xX1"] := by
  have plain : Template.Plain (Template.pieces letterTemplate) := by decide +kernel
  have small : (Regex.parse? (Template.source (Template.pieces letterTemplate))).all
      (·.expr.fits) = true := by decide +kernel
  obtain ⟨hmatch, hcaptured⟩ : (ofTemplate letterTemplate).isMatch "XxX1" = true ∧
      (Template.placeholders (Template.pieces letterTemplate)).map
        ((ofTemplate letterTemplate).captures "XxX1").get? = ["", "xX1"].map some := by
    decide +kernel
  obtain ⟨texts, shortest, -, -, hget, -⟩ := (captures_plain plain small "XxX1").2.1 hmatch
  rw [hcaptured] at hget
  exact ⟨plain, small, hmatch, texts, shortest,
    (List.map_injective_iff.mpr (Option.some_injective _) hget).symm⟩

end Pattern

end DocTables
