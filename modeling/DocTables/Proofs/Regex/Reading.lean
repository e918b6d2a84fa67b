/-
# Reading a pattern that goes on

A pattern is read part by part.  Where a dollar sign stands behind a text, every part is read as it
is in the text alone, and what is left is the same with the dollar sign behind it (`step_append`).
So the whole text is read in the same steps, and the dollar sign is the part after it, an anchor
(`Reads.append`), unless it may stand in a comment.

`Reader.Reads` counts the steps in which a text is read; it takes the place of the fuel of
`Reader.readAll` (`readAll_eq_some_iff`).
-/
import Mathlib
import DocTables.Proofs.Regex.Scanning

namespace DocTables.Regex

namespace Reader

variable {r r' : Reader} {f : Flags} {cs rest t : List Char}

/-! ## 1. Groups -/

theorem openNamed_append (h : r.openNamed cs = some (r', rest)) :
    r.openNamed (cs ++ t) = some (r', rest ++ t) := by
  unfold openNamed at h ⊢
  cases hdrop : cs.dropWhile (· != '>') with
  | nil => simp [hdrop] at h
  | cons c more =>
    obtain ⟨htake, hdrop'⟩ :=
      takeWhile_append_of_drop (t := t) (by rw [hdrop]; exact List.cons_ne_nil _ _)
    simp only [htake, hdrop', hdrop, List.cons_append] at h ⊢
    split at h
    · rename_i named
      rw [if_pos named]
      cases h
      rfl
    · cases h

/-- What switches in parentheses do: they hold from here on, or in the group that they open. -/
def afterSwitches (r : Reader) : Flags × List Char × List Char → Option (Reader × List Char)
  | (flags, seen, ')' :: rest) =>
    if seen.isEmpty then none else some ({ r with flags := flags }.push ⟨.empty, 0, false⟩, rest)
  | (flags, _, rest) => some (r.openGroup .plain flags, rest.drop 1)

theorem afterSwitches_group {flags : Flags} {seen : List Char} {c : Char} (hc : c ≠ ')') :
    r.afterSwitches (flags, seen, c :: cs) = some (r.openGroup .plain flags, cs) := by
  simp [afterSwitches, hc]

theorem afterSwitches_append {flags : Flags} {seen : List Char} {c : Char}
    (h : r.afterSwitches (flags, seen, c :: cs) = some (r', rest)) :
    r.afterSwitches (flags, seen, c :: (cs ++ t)) = some (r', rest ++ t) := by
  by_cases hc : c = ')'
  · subst hc
    simp only [afterSwitches] at h ⊢
    split at h
    · cases h
    · rename_i some
      rw [if_neg some]
      cases h
      rfl
  · rw [afterSwitches_group hc] at h ⊢
    cases h
    rfl

/-- What a parenthesis opens, by the text after it from the first character that means something. -/
inductive Opens (r : Reader) : List Char → Reader → List Char → Prop
  | capture {cs : List Char} (unmarked : cs.head? ≠ some '?') :
      Opens r cs { r.openGroup (.capture (r.groups + 1)) r.flags with groups := r.groups + 1 } cs
  | switches {c : Char} {cs rest : List Char} {r' : Reader} {read : Flags × List Char × List Char}
      (unnamed : c ∉ ['=', '!', '<', 'P']) (here : r.flags.readSwitches [] (c :: cs) = some read)
      (done : r.afterSwitches read = some (r', rest)) : Opens r ('?' :: c :: cs) r' rest
  | named {c : Char} {cs rest : List Char} {r' : Reader} (unlooked : c ∉ ['=', '!'])
      (here : r.openNamed (c :: cs) = some (r', rest)) : Opens r ('?' :: '<' :: c :: cs) r' rest
  | longNamed {cs rest : List Char} {r' : Reader} (here : r.openNamed cs = some (r', rest)) :
      Opens r ('?' :: 'P' :: '<' :: cs) r' rest

theorem readOpening_switches {c : Char} (hskip : r.flags.skip cs = '?' :: c :: rest)
    (hc : c ∉ ['=', '!', '<', 'P']) :
    r.readOpening cs = (r.flags.readSwitches [] (c :: rest)).bind r.afterSwitches := by
  simp only [List.mem_cons, List.not_mem_nil, or_false, not_or] at hc
  obtain ⟨hahead, hnot, hname, hlong⟩ := hc
  simp only [readOpening, hskip, List.cons.injEq, hahead, hnot, hname, hlong, false_and, imp_self,
    implies_true]
  refine congrArg _ (funext fun ⟨flags, seen, rest⟩ => ?_)
  cases rest with
  | nil => rfl
  | cons d rest =>
    by_cases hd : d = ')'
    · subst hd
      rfl
    · rw [afterSwitches_group hd]
      simp [hd]

theorem readOpening_capture (h : (r.flags.skip cs).head? ≠ some '?') :
    r.readOpening cs = some ({ r.openGroup (.capture (r.groups + 1)) r.flags with
      groups := r.groups + 1 }, r.flags.skip cs) := by
  cases hskip : r.flags.skip cs with
  | nil => simp [readOpening, hskip]
  | cons c rest =>
    have hc : c ≠ '?' := by
      rintro rfl
      exact h (by rw [hskip]; rfl)
    simp [readOpening, hskip, hc]

theorem opens_of_readOpening (h : r.readOpening cs = some (r', rest)) :
    Opens r (r.flags.skip cs) r' rest := by
  by_cases marked : (r.flags.skip cs).head? = some '?'
  · obtain ⟨more, hskip⟩ : ∃ more, r.flags.skip cs = '?' :: more :=
      ⟨_, List.eq_cons_of_mem_head? marked⟩
    cases more with
    | nil => simp [readOpening, hskip, Flags.readSwitches] at h
    | cons c more =>
      by_cases unnamed : c ∉ ['=', '!', '<', 'P']
      · rw [readOpening_switches hskip unnamed] at h
        obtain ⟨read, here, done⟩ := Option.bind_eq_some_iff.mp h
        exact hskip ▸ .switches unnamed here done
      · simp only [List.mem_cons, List.not_mem_nil, or_false, not_not] at unnamed
        rcases unnamed with rfl | rfl | rfl | rfl
        · simp [readOpening, hskip] at h
        · simp [readOpening, hskip] at h
        · cases more with
          | nil => simp [readOpening, hskip, openNamed] at h
          | cons d more =>
            by_cases unlooked : d ∉ ['=', '!']
            · rw [hskip]
              refine .named unlooked ?_
              simp only [List.mem_cons, List.not_mem_nil, or_false, not_or] at unlooked
              simpa [readOpening, hskip, unlooked.1, unlooked.2] using h
            · simp only [List.mem_cons, List.not_mem_nil, or_false, not_not] at unlooked
              rcases unlooked with rfl | rfl <;> simp [readOpening, hskip] at h
        · cases more with
          | nil => simp [readOpening, hskip, Flags.readSwitches, Flags.set?] at h
          | cons d more =>
            by_cases hd : d = '<'
            · subst hd
              simp only [readOpening, hskip] at h
              exact hskip ▸ .longNamed h
            · simp [readOpening, hskip, Flags.readSwitches, Flags.set?, hd] at h
  · rw [readOpening_capture marked] at h
    cases h
    exact .capture marked

theorem readOpening_of_opens (h : Opens r (r.flags.skip cs) r' rest) :
    r.readOpening cs = some (r', rest) := by
  generalize hskip : r.flags.skip cs = found at h
  cases h with
  | capture unmarked =>
    subst hskip
    exact readOpening_capture unmarked
  | switches unnamed here done =>
    rw [readOpening_switches hskip unnamed]
    exact Option.bind_eq_some_iff.mpr ⟨_, here, done⟩
  | named unlooked here =>
    simp only [List.mem_cons, List.not_mem_nil, or_false, not_or] at unlooked
    simpa [readOpening, hskip, unlooked.1, unlooked.2] using here
  | longNamed here => simpa only [readOpening, hskip] using here

/-- A group is opened alike, unless a comment after the parenthesis reaches to the end. -/
theorem readOpening_append (h : r.readOpening cs = some (r', rest))
    (hrest : r'.flags.spaced = true → rest ≠ []) :
    r.readOpening (cs ++ ['$']) = some (r', rest ++ ['$']) := by
  have opens := opens_of_readOpening h
  apply readOpening_of_opens
  generalize hskip : r.flags.skip cs = found at opens
  cases opens with
  | capture unmarked =>
    subst hskip
    have hskip' := Flags.skip_append (f := r.flags) (t := ['$']) hrest
    rw [hskip']
    refine .capture ?_
    rw [List.head?_append]
    intro hhead
    rcases Option.or_eq_some_iff.mp hhead with hhead | ⟨-, hhead⟩
    · exact unmarked hhead
    · exact absurd hhead (by decide)
  | @switches c more rest r' read unnamed here done =>
    obtain ⟨flags, seen, ends⟩ := read
    rw [Flags.skip_append_cons hskip]
    refine .switches unnamed (Flags.readSwitches_append here) ?_
    obtain ⟨d, ends, rfl⟩ := List.exists_cons_of_ne_nil (Flags.readSwitches_ne_nil here)
    exact afterSwitches_append done
  | named unlooked here =>
    rw [Flags.skip_append_cons hskip]
    exact .named unlooked (openNamed_append here)
  | longNamed here =>
    rw [Flags.skip_append_cons hskip]
    exact .longNamed (openNamed_append here)

/-! ## 2. Counts -/

theorem scanDigits_append : ∀ {n m : Nat} {cs digits rest : List Char}, cs.length ≤ n → n ≤ m →
    scanDigits f n cs = (digits, rest) → rest ≠ [] →
      scanDigits f m (cs ++ t) = (digits, rest ++ t)
  | 0, _, cs, _, _, hlen, _, h, hrest => by
    cases h
    exact absurd (List.eq_nil_of_length_eq_zero (Nat.le_zero.mp hlen)) hrest
  | n + 1, _, [], _, _, _, _, h, hrest => by
    cases h
    exact absurd rfl hrest
  | n + 1, m, c :: cs, digits, rest, hlen, hm, h, hrest => by
    obtain ⟨m, rfl⟩ : ∃ k, m = k + 1 := ⟨m - 1, by omega⟩
    rw [List.cons_append]
    by_cases digit : Text.isDigit c = true
    · simp only [scanDigits, digit, if_true] at h ⊢
      have hlen' := (f.length_skip_le cs).trans (Nat.le_of_succ_le_succ hlen)
      obtain ⟨ds, rs, hrec⟩ : ∃ ds rs, scanDigits f n (f.skip cs) = (ds, rs) := ⟨_, _, rfl⟩
      rw [hrec] at h
      cases h
      rw [Flags.skip_append, scanDigits_append hlen' (Nat.le_of_succ_le_succ hm) hrec hrest]
      rintro - hskip
      rw [hskip] at hrec
      cases n <;> exact hrest (Prod.mk.inj hrec).2.symm
    · simp only [scanDigits, digit, if_false, Bool.false_eq_true] at h ⊢
      cases h
      rfl

theorem skipWhite_append : ∀ {n m : Nat} {cs : List Char}, cs.length ≤ n → n ≤ m →
    skipWhite f n cs ≠ [] → skipWhite f m (cs ++ t) = skipWhite f n cs ++ t
  | 0, _, cs, hlen, _, h => absurd (List.eq_nil_of_length_eq_zero (Nat.le_zero.mp hlen)) h
  | n + 1, _, [], _, _, h => absurd rfl h
  | n + 1, m, c :: cs, hlen, hm, h => by
    obtain ⟨m, rfl⟩ : ∃ k, m = k + 1 := ⟨m - 1, by omega⟩
    rw [List.cons_append]
    by_cases blank : Text.isBlank c = true
    · simp only [skipWhite, blank, if_true] at h ⊢
      have hlen' := (f.length_skip_le cs).trans (Nat.le_of_succ_le_succ hlen)
      rw [Flags.skip_append, skipWhite_append hlen' (Nat.le_of_succ_le_succ hm) h]
      rintro - hskip
      rw [hskip] at h
      cases n <;> exact h rfl
    · simp only [skipWhite, blank, if_false, Bool.false_eq_true, List.cons_append]

theorem readCount_append {digits : List Char} (h : readCount f cs = (digits, rest)) (hrest : rest ≠ []) :
    readCount f (cs ++ t) = (digits, rest ++ t) := by
  unfold readCount at h ⊢
  obtain ⟨ds, rs, hdigits⟩ : ∃ ds rs, scanDigits f (cs.dropWhile Text.isBlank).length
    (cs.dropWhile Text.isBlank) = (ds, rs) := ⟨_, _, rfl⟩
  simp only [hdigits] at h
  cases h
  have hrs : rs ≠ [] := by
    rintro rfl
    exact hrest rfl
  have hdrop : cs.dropWhile Text.isBlank ≠ [] := by
    intro hnil
    rw [hnil] at hdigits
    exact hrs (Prod.mk.inj hdigits).2.symm
  have hdigits' := scanDigits_append (t := t)
    (m := (cs.dropWhile Text.isBlank ++ t).length) (Nat.le_refl _) (by simp) hdigits hrs
  simp only [(takeWhile_append_of_drop hdrop).2, hdigits']
  rw [skipWhite_append (Nat.le_refl _) (by simp) hrest]

/-- The greatest count of a repetition, after the least one. -/
def most? (f : Flags) (min : Nat) (cs : List Char) : Option (Option Nat × List Char) :=
  match cs with
  | ',' :: rest =>
    match f.skip rest with
    | '\x7d' :: rest => some (none, '\x7d' :: rest)
    | rest => (countOf? (readCount f rest).1).map fun max => (some max, (readCount f rest).2)
  | rest => some (some min, rest)

/-- The end of a repetition, after its bounds. -/
def endCounted (r : Reader) (min : Nat) (max : Option Nat) (cs : List Char) :
    Option (Reader × List Char) :=
  match cs with
  | '\x7d' :: rest =>
    if max.all (min ≤ ·) then
      (r.repeatLast min max (scanLazy (r.flags.skip rest)).1).bind fun r' =>
        some (r', (scanLazy (r.flags.skip rest)).2)
    else none
  | _ => none

theorem most?_open (hskip : f.skip cs = '\x7d' :: rest) (min : Nat) :
    most? f min (',' :: cs) = some (none, '\x7d' :: rest) := by
  simp only [most?, hskip]

theorem most?_closed (hskip : (f.skip cs).head? ≠ some '\x7d') (min : Nat) :
    most? f min (',' :: cs) = (countOf? (readCount f (f.skip cs)).1).map fun max =>
      (some max, (readCount f (f.skip cs)).2) := by
  cases hcs : f.skip cs with
  | nil => simp [most?, hcs]
  | cons c rest =>
    have hc : c ≠ '\x7d' := by
      rintro rfl
      exact hskip (by rw [hcs]; rfl)
    simp [most?, hcs, hc]

theorem most?_exact {c : Char} (hc : c ≠ ',') (min : Nat) :
    most? f min (c :: cs) = some (some min, c :: cs) := by
  simp [most?, hc]

theorem readCounted_eq (r : Reader) (cs : List Char) : r.readCounted cs =
    (countOf? (readCount r.flags (r.flags.skip cs)).1).bind fun min =>
      (most? r.flags min (readCount r.flags (r.flags.skip cs)).2).bind fun (max, rest) =>
        r.endCounted min max rest := by
  unfold readCounted
  simp only
  refine congrArg _ (funext fun min => ?_)
  cases hrest : (readCount r.flags (r.flags.skip cs)).2 with
  | nil => rfl
  | cons c rest =>
    by_cases comma : c = ','
    · subst comma
      by_cases closing : ∃ more, r.flags.skip rest = '\x7d' :: more
      · obtain ⟨more, hskip⟩ := closing
        rw [most?_open hskip]
        simp only [hskip]
        rfl
      · have hhead : (r.flags.skip rest).head? ≠ some '\x7d' := by
          intro hhead
          exact closing ⟨_, List.eq_cons_of_mem_head? hhead⟩
        rw [most?_closed hhead]
        have hne (more : List Char) : r.flags.skip rest = '\x7d' :: more → False := fun heq =>
          closing ⟨more, heq⟩
        simp only
        rfl
    · rw [most?_exact comma]
      have hne (more : List Char) : c :: rest = ',' :: more → False := fun heq =>
        comma (List.cons.inj heq).1
      simp only
      rfl

theorem most?_append {min : Nat} {max : Option Nat} (h : most? f min cs = some (max, rest))
    (hrest : rest ≠ []) : most? f min (cs ++ ['$']) = some (max, rest ++ ['$']) := by
  cases cs with
  | nil =>
    cases h
    exact absurd rfl hrest
  | cons c cs =>
    rw [List.cons_append]
    by_cases comma : c = ','
    · subst comma
      by_cases closing : ∃ more, f.skip cs = '\x7d' :: more
      · obtain ⟨more, hskip⟩ := closing
        rw [most?_open hskip] at h
        cases h
        exact most?_open (Flags.skip_append_cons hskip) min
      · have hhead : (f.skip cs).head? ≠ some '\x7d' := fun hhead =>
          closing ⟨_, List.eq_cons_of_mem_head? hhead⟩
        rw [most?_closed hhead] at h
        obtain ⟨n, hn, heq⟩ := Option.map_eq_some_iff.mp h
        cases heq
        have hskip : f.skip cs ≠ [] := by
          intro hnil
          rw [hnil] at hrest
          exact hrest rfl
        have hskip' := Flags.skip_append (t := ['$']) fun _ => hskip
        have hcount := readCount_append (t := ['$']) (Prod.eta (readCount f (f.skip cs))).symm hrest
        rw [most?_closed, hskip', hcount, hn]
        · rfl
        · rwa [hskip', List.head?_append_of_ne_nil _ hskip]
    · rw [most?_exact comma] at h ⊢
      cases h
      rfl

theorem scanLazy_append (cs : List Char) :
    scanLazy (cs ++ ['$']) = ((scanLazy cs).1, (scanLazy cs).2 ++ ['$']) := by
  cases cs with
  | nil => rfl
  | cons c cs =>
    by_cases hc : c = '?'
    · subst hc
      rfl
    · simp [scanLazy, hc]

theorem flags_repeatLast {min : Nat} {max : Option Nat} {isLazy : Bool}
    (h : r.repeatLast min max isLazy = some r') : r'.flags = r.flags := by
  obtain ⟨⟨p, r''⟩, hpop, heq⟩ := Option.bind_eq_some_iff.mp h
  cases heq
  unfold pop? at hpop
  split at hpop
  · split at hpop
    · cases hpop
      rfl
    · cases hpop
  · cases hpop

theorem endCounted_append {min : Nat} {max : Option Nat}
    (h : r.endCounted min max cs = some (r', rest)) (hrest : r'.flags.spaced = true → rest ≠ []) :
    r.endCounted min max (cs ++ ['$']) = some (r', rest ++ ['$']) := by
  unfold endCounted at h
  split at h
  · rename_i cs
    split at h
    · rename_i bounded
      obtain ⟨r'', hrepeat, heq⟩ := Option.bind_eq_some_iff.mp h
      cases heq
      rw [flags_repeatLast hrepeat] at hrest
      have hskip : r.flags.spaced = true → r.flags.skip cs ≠ [] := by
        intro spaced hnil
        rw [hnil] at hrest
        exact hrest spaced rfl
      simp only [List.cons_append, endCounted, bounded, if_true, Flags.skip_append hskip,
        scanLazy_append, hrepeat]
      rfl
    · cases h
  · cases h

theorem readCounted_append (h : r.readCounted cs = some (r', rest))
    (hrest : r'.flags.spaced = true → rest ≠ []) :
    r.readCounted (cs ++ ['$']) = some (r', rest ++ ['$']) := by
  rw [readCounted_eq] at h ⊢
  obtain ⟨min, hmin, h⟩ := Option.bind_eq_some_iff.mp h
  obtain ⟨⟨max, rs⟩, hmost, hend⟩ := Option.bind_eq_some_iff.mp h
  have hrs : rs ≠ [] := by
    rintro rfl
    cases hend
  obtain ⟨digits, ds, hcount⟩ : ∃ digits ds, readCount r.flags (r.flags.skip cs) = (digits, ds) :=
    ⟨_, _, rfl⟩
  rw [hcount] at hmin hmost
  have hds : ds ≠ [] := by
    rintro rfl
    cases hmost
    exact hrs rfl
  have hskip : r.flags.skip cs ≠ [] := by
    intro hnil
    rw [hnil] at hcount
    exact hds (Prod.mk.inj hcount).2.symm
  rw [Flags.skip_append fun _ => hskip, readCount_append hcount hds]
  exact Option.bind_eq_some_iff.mpr ⟨min, hmin, Option.bind_eq_some_iff.mpr
    ⟨_, most?_append hmost hrs, endCounted_append hend hrest⟩⟩

/-! ## 3. The whole text -/

/-- **A step reads alike**: unless a comment reaches to the end, it leaves what follows the text. -/
theorem step_append {c : Char} (h : r.step c cs = some (r', rest))
    (hrest : r'.flags.spaced = true → rest ≠ []) :
    r.step c (cs ++ ['$']) = some (r', rest ++ ['$']) := by
  have single {r'' : Reader} (h : some (r'', cs) = some (r', rest)) :
      some (r'', cs ++ ['$']) = some (r', rest ++ ['$']) := by
    cases h
    rfl
  have chosen {α : Type} {o : Option α} {g : α → Reader}
      (h : o.map (fun a => (g a, cs)) = some (r', rest)) :
      o.map (fun a => (g a, cs ++ ['$'])) = some (r', rest ++ ['$']) := by
    obtain ⟨a, ha, heq⟩ := Option.map_eq_some_iff.mp h
    exact Option.map_eq_some_iff.mpr ⟨a, ha, single (congrArg some heq) |> Option.some.inj⟩
  have repeated {min : Nat} {max : Option Nat}
      (h : (r.repeatLast min max (scanLazy cs).1).map (fun r => (r, (scanLazy cs).2)) =
        some (r', rest)) :
      (r.repeatLast min max (scanLazy cs).1).map (fun r => (r, (scanLazy cs).2 ++ ['$'])) =
        some (r', rest ++ ['$']) := by
    obtain ⟨r'', hr'', heq⟩ := Option.map_eq_some_iff.mp h
    cases heq
    exact Option.map_eq_some_iff.mpr ⟨_, hr'', rfl⟩
  unfold step at h ⊢
  simp only [scanLazy_append] at h ⊢
  split at h
  · exact readOpening_append h hrest
  · exact chosen h
  · exact single h
  · obtain ⟨⟨m, rs⟩, hbracket, heq⟩ := Option.bind_eq_some_iff.mp h
    cases heq
    exact Option.bind_eq_some_iff.mpr ⟨_, readBracket_append hbracket, rfl⟩
  · exact repeated h
  · exact repeated h
  · exact repeated h
  · exact readCounted_append h hrest
  · obtain ⟨⟨atom, rs⟩, hatom, h⟩ := Option.bind_eq_some_iff.mp h
    obtain ⟨r'', hr'', heq⟩ := Option.bind_eq_some_iff.mp h
    cases heq
    exact Option.bind_eq_some_iff.mpr ⟨_, readEscape_append hatom,
      Option.bind_eq_some_iff.mpr ⟨_, hr'', rfl⟩⟩
  · exact chosen h
  · exact single h
  · exact single h
  · exact single h

/-- The reader comes from one state to another over a text, to its end, in so many steps. -/
inductive Reads : Nat → Reader → List Char → Reader → Prop
  | done {r : Reader} {cs : List Char} (skip : r.flags.skip cs = []) : Reads 0 r cs r
  | step {n : Nat} {r next r' : Reader} {c : Char} {cs more rest : List Char}
      (skip : r.flags.skip cs = c :: more) (here : r.step c more = some (next, rest))
      (later : Reads n next rest r') : Reads (n + 1) r cs r'

/-- Enough fuel is more than the number of steps. -/
theorem readAll_eq_some_iff {fuel : Nat} :
    readAll fuel r cs = some r' ↔ ∃ n < fuel, Reads n r cs r' := by
  induction fuel generalizing r cs with
  | zero => simp [readAll]
  | succ fuel ih =>
    cases hskip : r.flags.skip cs with
    | nil =>
      simp only [readAll, hskip, Option.some.injEq]
      constructor
      · rintro rfl
        exact ⟨0, Nat.succ_pos _, .done hskip⟩
      · rintro ⟨n, -, reads⟩
        cases reads with
        | done => rfl
        | step skip => rw [hskip] at skip; cases skip
    | cons c more =>
      simp only [readAll, hskip]
      constructor
      · intro h
        obtain ⟨⟨next, rest⟩, here, h⟩ := Option.bind_eq_some_iff.mp h
        obtain ⟨n, hn, later⟩ := ih.mp h
        exact ⟨n + 1, Nat.succ_lt_succ hn, .step hskip here later⟩
      · rintro ⟨n, hn, reads⟩
        cases reads with
        | done skip => rw [hskip] at skip; cases skip
        | step skip here later =>
          rw [hskip] at skip
          obtain ⟨rfl, rfl⟩ := List.cons.inj skip
          exact Option.bind_eq_some_iff.mpr
            ⟨_, here, ih.mpr ⟨_, Nat.lt_of_succ_lt_succ hn, later⟩⟩

/-- There is one way to read a text. -/
theorem Reads.unique {n m : Nat} {r₁ r₂ : Reader} (h₁ : Reads n r cs r₁) (h₂ : Reads m r cs r₂) :
    r₁ = r₂ := by
  have h₁ := readAll_eq_some_iff.mpr ⟨n, Nat.lt_add_right m (Nat.lt_succ_self n), h₁⟩
  have h₂ := readAll_eq_some_iff.mpr ⟨m, show m < n + 1 + m by omega, h₂⟩
  exact Option.some.inj (h₁.symm.trans h₂)

/-- **A text with a dollar sign behind it** is read like the text alone, and the dollar sign is an
anchor, unless it may stand in a comment. -/
theorem Reads.append {n : Nat} (h : Reads n r cs r') (hspaced : r'.flags.spaced = false) :
    Reads (n + 1) r (cs ++ ['$']) (r'.push ⟨.look (anchor r'.flags false), 0, true⟩) := by
  induction h with
  | @done r cs skip =>
    obtain rfl : cs = [] := by
      unfold Flags.skip at skip
      simpa [hspaced] using skip
    refine .step (c := '$') ?_ rfl (.done (Flags.skip_nil _))
    unfold Flags.skip
    rw [hspaced]
    rfl
  | step skip here later ih =>
    refine .step (Flags.skip_append_cons skip) (step_append here ?_) (ih hspaced)
    rintro spaced rfl
    -- nothing is left, so the switch is still on at the end
    cases later with
    | done => rw [spaced] at hspaced; cases hspaced
    | step skip => rw [Flags.skip_nil] at skip; cases skip

end Reader

end DocTables.Regex
