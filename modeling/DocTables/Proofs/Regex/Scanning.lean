/-
# Scanning a pattern that goes on

A pattern is scanned from left to right, so what is scanned is the same if the text goes on, as long
as the scan has looked no further than to what is there.  Here are the scans that read a single part:
spaces and switches, escapes, sets in brackets.  Most end with a character of their own, so whatever
follows the text is left as it is (`readCode_append`, `readBrackets_append`).  Some look at the
character that follows; for a dollar sign behind the text that makes no difference (`readEdge_append`,
`glance_append`).

Where what means nothing is skipped up to the end of the text, more of it may follow: a comment takes
a dollar sign, too.  So `Flags.skip_append` asks that something is left.
-/
import Mathlib
import DocTables.Regex.Reader

namespace DocTables.Regex

variable {f : Flags} {cs rest t : List Char}

/-! ## 1. Spaces, comments and switches -/

namespace Flags

theorem skipBlank_append : ∀ (comment : Bool) {cs : List Char}, skipBlank comment cs ≠ [] →
    skipBlank comment (cs ++ t) = skipBlank comment cs ++ t
  | _, [], h => absurd rfl h
  | comment, c :: cs, h => by
    simp only [List.cons_append, skipBlank] at h ⊢
    by_cases inside : comment = true
    · simp only [inside, if_true] at h ⊢
      exact skipBlank_append _ h
    · by_cases blank : Text.isBlank c = true
      · simp only [inside, blank, if_true, if_false, Bool.false_eq_true] at h ⊢
        exact skipBlank_append _ h
      · by_cases hash : (c == '#') = true
        · simp only [inside, blank, hash, if_true, if_false, Bool.false_eq_true] at h ⊢
          exact skipBlank_append _ h
        · simp only [inside, blank, hash, if_false, Bool.false_eq_true, List.cons_append]

/-- What means nothing is skipped alike if the text goes on, unless it reaches to the end. -/
theorem skip_append (h : f.spaced = true → f.skip cs ≠ []) :
    f.skip (cs ++ t) = f.skip cs ++ t := by
  unfold skip at h ⊢
  by_cases spaced : f.spaced = true
  · simp only [spaced, if_true, forall_const] at h ⊢
    exact skipBlank_append _ h
  · simp only [spaced, if_false, Bool.false_eq_true]

theorem skip_append_cons {c : Char} (h : f.skip cs = c :: rest) :
    f.skip (cs ++ t) = c :: (rest ++ t) := by
  rw [skip_append (by simp [h]), h, List.cons_append]

@[simp] theorem skip_nil (f : Flags) : f.skip [] = [] := by
  unfold skip skipBlank
  split <;> rfl

theorem skipBlank_suffix : ∀ (comment : Bool) (cs : List Char), skipBlank comment cs <:+ cs
  | _, [] => List.suffix_refl _
  | comment, c :: cs => by
    have later (comment : Bool) := (skipBlank_suffix comment cs).trans (List.suffix_cons c cs)
    rw [skipBlank]
    split
    · exact later _
    · split
      · exact later _
      · split
        · exact later _
        · exact List.suffix_refl _

theorem skip_suffix (f : Flags) (cs : List Char) : f.skip cs <:+ cs := by
  unfold skip
  split
  · exact skipBlank_suffix _ _
  · exact List.suffix_refl _

theorem length_skip_le (f : Flags) (cs : List Char) : (f.skip cs).length ≤ cs.length :=
  (f.skip_suffix cs).length_le

/-- Switches are read alike: what ends them is there. -/
theorem readSwitches_append : ∀ {cs : List Char} {f g : Flags} {seen seen' rest : List Char},
    f.readSwitches seen cs = some (g, seen', rest) →
      f.readSwitches seen (cs ++ t) = some (g, seen', rest ++ t)
  | [], _, _, _, _, _, h => by cases h
  | c :: cs, f, g, seen, seen', rest, h => by
    rw [List.cons_append]
    rw [readSwitches] at h ⊢
    by_cases ends : (c == ':' || c == ')') = true
    · rw [if_pos ends] at h ⊢
      by_cases dash : (seen.head? == some '-') = true
      · rw [if_pos dash] at h
        cases h
      · rw [if_neg dash] at h ⊢
        cases h
        rfl
    · rw [if_neg ends] at h ⊢
      by_cases twice : seen.contains c = true
      · rw [if_pos twice] at h
        cases h
      · rw [if_neg twice] at h ⊢
        by_cases dash : (c == '-') = true
        · rw [if_pos dash] at h ⊢
          exact readSwitches_append h
        · rw [if_neg dash] at h ⊢
          obtain ⟨g', hset, h⟩ := Option.bind_eq_some_iff.mp h
          exact Option.bind_eq_some_iff.mpr ⟨g', hset, readSwitches_append h⟩

theorem readSwitches_ne_nil : ∀ {cs : List Char} {f g : Flags} {seen seen' rest : List Char},
    f.readSwitches seen cs = some (g, seen', rest) → rest ≠ []
  | [], _, _, _, _, _, h => by cases h
  | c :: cs, f, g, seen, seen', rest, h => by
    rw [readSwitches] at h
    split at h
    · split at h
      · cases h
      · cases h
        exact List.cons_ne_nil _ _
    · split at h
      · cases h
      · split at h
        · exact readSwitches_ne_nil h
        · obtain ⟨g', -, h⟩ := Option.bind_eq_some_iff.mp h
          exact readSwitches_ne_nil h

end Flags

/-! ## 2. Escapes -/

theorem scanBraced_cons {n : Nat} {c : Char} (hskip : f.skip cs = c :: rest) (hc : c ≠ '\x7d') :
    scanBraced f (n + 1) cs = (scanBraced f n rest).bind fun q => some (c :: q.1, q.2) := by
  rw [scanBraced, hskip]
  simp only
  rfl

theorem scanBraced_append : ∀ {n m : Nat} {cs digits rest : List Char}, n ≤ m →
    scanBraced f n cs = some (digits, rest) → scanBraced f m (cs ++ t) = some (digits, rest ++ t)
  | 0, _, _, _, _, _, h => by cases h
  | n + 1, m, cs, digits, rest, hm, h => by
    obtain ⟨m, rfl⟩ : ∃ k, m = k + 1 := ⟨m - 1, by omega⟩
    cases hskip : f.skip cs with
    | nil => simp [scanBraced, hskip] at h
    | cons c more =>
      have hskip' := Flags.skip_append_cons (t := t) hskip
      by_cases hc : c = '\x7d'
      · subst hc
        rw [scanBraced, hskip] at h
        cases h
        simp only [scanBraced, hskip']
      · rw [scanBraced_cons hskip hc] at h
        obtain ⟨⟨ds, rs⟩, hrec, heq⟩ := Option.bind_eq_some_iff.mp h
        cases heq
        rw [scanBraced_cons hskip' hc, scanBraced_append (by omega) hrec]
        rfl

theorem scanSome_append : ∀ {n : Nat} {cs digits rest : List Char},
    scanSome f n cs = some (digits, rest) → scanSome f n (cs ++ t) = some (digits, rest ++ t)
  | 0, _, _, _, h => by
    cases h
    rfl
  | n + 1, cs, digits, rest, h => by
    rw [scanSome] at h ⊢
    cases hskip : f.skip cs with
    | nil => simp [hskip] at h
    | cons c more =>
      rw [hskip] at h
      rw [Flags.skip_append_cons hskip]
      obtain ⟨⟨ds, rs⟩, hrec, heq⟩ := Option.bind_eq_some_iff.mp h
      cases heq
      exact Option.bind_eq_some_iff.mpr ⟨_, scanSome_append hrec, rfl⟩

theorem readCode_append {width : Nat} {atom : Atom} (hwidth : 0 < width)
    (h : readCode f width cs = some (atom, rest)) :
    readCode f width (cs ++ t) = some (atom, rest ++ t) := by
  unfold readCode at h ⊢
  cases hskip : f.skip cs with
  | nil =>
    obtain ⟨w, rfl⟩ : ∃ w, width = w + 1 := ⟨width - 1, by omega⟩
    simp [hskip, scanSome] at h
  | cons c more =>
    simp only [hskip, Flags.skip_append_cons hskip] at h ⊢
    split at h
    · rename_i heq
      obtain ⟨rfl, rfl⟩ := List.cons.inj heq
      obtain ⟨⟨digits, rs⟩, hscan, h⟩ := Option.bind_eq_some_iff.mp h
      obtain ⟨c, hc, heq⟩ := Option.bind_eq_some_iff.mp h
      cases heq
      have := scanBraced_append (t := t) (m := (more ++ t).length + 1) (by simp) hscan
      simp [-List.length_append, this, hc]
    · rename_i hne
      obtain ⟨⟨digits, rs⟩, hscan, h⟩ := Option.bind_eq_some_iff.mp h
      obtain ⟨c', hc', heq⟩ := Option.bind_eq_some_iff.mp h
      cases heq
      have hne : c ≠ '\x7b' := fun hc => hne more (by rw [hc])
      have := scanSome_append (t := t) hscan
      rw [List.cons_append] at this
      simp [hne, this, hc']

theorem readProperty_append {negated : Bool} {atom : Atom}
    (h : readProperty f negated cs = some (atom, rest)) :
    readProperty f negated (cs ++ t) = some (atom, rest ++ t) := by
  unfold readProperty at h ⊢
  by_cases unicode : (!f.unicode) = true
  · rw [if_pos unicode] at h
    cases h
  · rw [if_neg unicode] at h ⊢
    cases hskip : f.skip cs with
    | nil => simp [hskip] at h
    | cons c more =>
      simp only [hskip, Flags.skip_append_cons hskip] at h ⊢
      split at h
      · cases h
      · cases h
      · rename_i heq
        obtain ⟨rfl, rfl⟩ := List.cons.inj heq
        obtain ⟨⟨name, rs⟩, hscan, h⟩ := Option.bind_eq_some_iff.mp h
        obtain ⟨found, hfound, h⟩ := Option.bind_eq_some_iff.mp h
        obtain ⟨set, hset, heq⟩ := Option.bind_eq_some_iff.mp h
        cases heq
        have := scanBraced_append (t := t) (m := (more ++ t).length + 1) (by simp) hscan
        simp [-List.length_append, this, hfound, hset]
      · rename_i hslash hbrace heq
        obtain ⟨rfl, rfl⟩ := List.cons.inj heq
        obtain ⟨name, hname, h⟩ := Option.bind_eq_some_iff.mp h
        obtain rfl := Option.some.inj hname
        obtain ⟨found, hfound, h⟩ := Option.bind_eq_some_iff.mp h
        obtain ⟨set, hset, heq⟩ := Option.bind_eq_some_iff.mp h
        cases heq
        simp [hfound, hset]

/-- The name of an edge stands in braces, so a dollar sign is none of it. -/
theorem readEdge_append {kind : Edge} (h : readEdge f cs = some (kind, rest)) :
    readEdge f (cs ++ ['$']) = some (kind, rest ++ ['$']) := by
  unfold readEdge at h ⊢
  split at h
  · rename_i cs
    simp only [List.cons_append]
    cases hskip : f.skip cs with
    | nil => simp [hskip] at h
    | cons c more =>
      simp only [hskip, Flags.skip_append_cons hskip] at h ⊢
      split at h
      · rename_i named
        obtain ⟨⟨name, rs⟩, hscan, h⟩ := Option.bind_eq_some_iff.mp h
        obtain ⟨kind, hkind, heq⟩ := Option.bind_eq_some_iff.mp h
        cases heq
        have := scanBraced_append (t := ['$']) (m := (more ++ ['$']).length + 2) (by simp) hscan
        rw [List.cons_append] at this
        simp [-List.length_append, named, this, hkind]
      · rename_i named
        cases h
        simp [named]
  · rename_i hne
    cases h
    split
    · rename_i more heq
      cases cs with
      | nil => simp at heq
      | cons c cs => exact absurd (by rw [(List.cons.inj heq).1]) (hne cs)
    · rfl

/-- A choice that is made alike on both sides. -/
theorem eq_some_of_ite {α β : Type} {c : Prop} [Decidable c] {a b : Option α} {a' b' : Option β}
    {x : α} {y : β} (yes : a = some x → a' = some y) (no : b = some x → b' = some y) :
    (if c then a else b) = some x → (if c then a' else b') = some y := by
  split
  · exact yes
  · exact no

theorem readEscape_append {atom : Atom} (h : readEscape f cs = some (atom, rest)) :
    readEscape f (cs ++ ['$']) = some (atom, rest ++ ['$']) := by
  cases cs with
  | nil => cases h
  | cons c cs =>
    have single {atom' : Atom} (h : some (atom', cs) = some (atom, rest)) :
        some (atom', cs ++ ['$']) = some (atom, rest ++ ['$']) := by
      cases h
      rfl
    have chosen {α : Type} {o : Option α} {g : α → Atom}
        (h : o.map (fun a => (g a, cs)) = some (atom, rest)) :
        o.map (fun a => (g a, cs ++ ['$'])) = some (atom, rest ++ ['$']) := by
      obtain ⟨a, ha, heq⟩ := Option.map_eq_some_iff.mp h
      exact Option.map_eq_some_iff.mpr ⟨a, ha, single (congrArg some heq) |> Option.some.inj⟩
    revert h
    simp only [readEscape, List.cons_append]
    refine eq_some_of_ite (readCode_append (by decide)) ?_
    refine eq_some_of_ite (readCode_append (by decide)) ?_
    refine eq_some_of_ite (readCode_append (by decide)) ?_
    refine eq_some_of_ite readProperty_append ?_
    refine eq_some_of_ite single ?_
    refine eq_some_of_ite chosen ?_
    refine eq_some_of_ite single ?_
    refine eq_some_of_ite single ?_
    refine eq_some_of_ite single ?_
    refine eq_some_of_ite (fun h => ?_) ?_
    · obtain ⟨⟨kind, rs⟩, hedge, heq⟩ := Option.map_eq_some_iff.mp h
      cases heq
      exact Option.map_eq_some_iff.mpr ⟨_, readEdge_append hedge, rfl⟩
    · exact eq_some_of_ite single (eq_some_of_ite single (eq_some_of_ite single chosen))

/-! ## 3. Sets in brackets -/

theorem takeWhile_append_of_drop {p : Char → Bool} (h : cs.dropWhile p ≠ []) :
    (cs ++ t).takeWhile p = cs.takeWhile p ∧
      (cs ++ t).dropWhile p = cs.dropWhile p ++ t := by
  constructor
  · rw [List.takeWhile_append, if_neg]
    intro hlen
    refine h (List.eq_nil_of_length_eq_zero ?_)
    have := congrArg List.length (List.takeWhile_append_dropWhile (p := p) (l := cs))
    rw [List.length_append] at this
    omega
  · rw [List.dropWhile_append, if_neg (by simpa using h)]

/-- The class whose name stands up to a colon and a closing bracket. -/
def namedClass (negated : Bool) (cs : List Char) : Option (List (Nat × Nat) × Bool × List Char) :=
  match cs.dropWhile (· != ':') with
  | ':' :: ']' :: rest =>
    (asciiClasses.lookup (String.ofList (cs.takeWhile (· != ':')))).map
      fun ranges => (ranges, negated, rest)
  | _ => none

theorem namedClass_append (negated : Bool) (cs : List Char) :
    namedClass negated (cs ++ ['$']) =
      (namedClass negated cs).map fun (ranges, negated, rest) => (ranges, negated, rest ++ ['$']) := by
  unfold namedClass
  cases hdrop : cs.dropWhile (· != ':') with
  | nil =>
    have : (cs ++ ['$']).dropWhile (· != ':') = [] := by
      rw [List.dropWhile_append, hdrop]
      decide
    rw [this]
    rfl
  | cons c more =>
    obtain ⟨htake, hdrop'⟩ :=
      takeWhile_append_of_drop (t := ['$']) (by rw [hdrop]; exact List.cons_ne_nil _ _)
    rw [htake, hdrop', hdrop]
    by_cases hc : c = ':'
    · subst hc
      cases more with
      | nil => rfl
      | cons d more =>
        by_cases hd : d = ']'
        · subst hd
          simp only [List.cons_append, Option.map_map]
          rfl
        · simp [hd]
    · simp [hc]

theorem scanAsciiClass_colon {c : Char} (hc : c ≠ '^') :
    scanAsciiClass (':' :: c :: cs) = namedClass false (c :: cs) := by
  simp only [scanAsciiClass, List.cons.injEq, hc, false_and, imp_self, implies_true]
  rfl

/-- Whether a class stands here is seen from what is there. -/
theorem scanAsciiClass_append (cs : List Char) :
    scanAsciiClass (cs ++ ['$']) =
      (scanAsciiClass cs).map fun (ranges, negated, rest) => (ranges, negated, rest ++ ['$']) := by
  cases cs with
  | nil => rfl
  | cons c cs =>
    by_cases hc : c = ':'
    · subst hc
      cases cs with
      | nil => rfl
      | cons d cs =>
        by_cases hd : d = '^'
        · subst hd
          exact namedClass_append true cs
        · rw [List.cons_append, List.cons_append, scanAsciiClass_colon hd, scanAsciiClass_colon hd]
          exact namedClass_append false (d :: cs)
    · simp [scanAsciiClass, hc]

theorem scanDashes_other {n : Nat} {b : Bracket} {c : Char} (hc : c ≠ '-') :
    scanDashes f b (n + 1) (c :: cs) = (b, c :: cs) := by
  simp [scanDashes, hc]

theorem scanDashes_append : ∀ {n m : Nat} {b b' : Bracket} {cs rest : List Char}, cs.length ≤ n →
    n ≤ m → scanDashes f b n cs = (b', rest) → rest ≠ [] →
      scanDashes f b m (cs ++ t) = (b', rest ++ t)
  | 0, _, _, _, cs, _, hlen, _, h, hrest => by
    cases h
    exact absurd (List.eq_nil_of_length_eq_zero (Nat.le_zero.mp hlen)) hrest
  | n + 1, _, _, _, [], _, _, _, h, hrest => by
    cases h
    exact absurd rfl hrest
  | n + 1, m, b, b', c :: cs, rest, hlen, hm, h, hrest => by
    obtain ⟨m, rfl⟩ : ∃ k, m = k + 1 := ⟨m - 1, by omega⟩
    by_cases hc : c = '-'
    · subst hc
      have hlen' := (f.length_skip_le cs).trans (Nat.le_of_succ_le_succ hlen)
      have h : scanDashes f (b.push ⟨.single '-', 0⟩) n (f.skip cs) = (b', rest) := h
      change scanDashes f (b.push ⟨.single '-', 0⟩) m (f.skip (cs ++ t)) = (b', rest ++ t)
      rw [← scanDashes_append hlen' (Nat.le_of_succ_le_succ hm) h hrest, Flags.skip_append]
      rintro - hskip
      rw [hskip] at h
      cases n <;> exact hrest (Prod.mk.inj h).2.symm
    · rw [scanDashes_other hc] at h
      cases h
      exact scanDashes_other hc

/-- The start of a bracket after the mark that negates it. -/
def openMembers (f : Flags) (negated : Bool) (cs : List Char) : Bracket × List Char :=
  let (b, cs) := scanDashes f ⟨negated, [], none⟩ cs.length cs
  match b.members, cs with
  | [], ']' :: rest => (b.push ⟨.single ']', 0⟩, f.skip rest)
  | _, cs => (b, cs)

theorem openBracket_negated (hskip : f.skip cs = '^' :: rest) :
    openBracket f cs = openMembers f true (f.skip rest) := by
  simp only [openBracket, hskip]
  rfl

theorem openBracket_plain (hne : ∀ rest, f.skip cs ≠ '^' :: rest) :
    openBracket f cs = openMembers f false (f.skip cs) := by
  simp only [openBracket]
  rfl

theorem openMembers_append {negated : Bool} {b : Bracket} (h : openMembers f negated cs = (b, rest))
    (hrest : rest ≠ []) : openMembers f negated (cs ++ t) = (b, rest ++ t) := by
  obtain ⟨b', cs', hdashes⟩ : ∃ b' cs', scanDashes f ⟨negated, [], none⟩ cs.length cs = (b', cs') :=
    ⟨_, _, rfl⟩
  unfold openMembers at h ⊢
  simp only [hdashes] at h
  cases cs' with
  | nil =>
    split at h
    · contradiction
    · cases h
      exact absurd rfl hrest
  | cons c cs' =>
    rw [scanDashes_append (Nat.le_refl _) (by simp) hdashes (List.cons_ne_nil _ _)]
    by_cases closing : b'.members = [] ∧ c = ']'
    · obtain ⟨hmembers, rfl⟩ := closing
      simp only [List.cons_append, hmembers] at h ⊢
      cases h
      rw [Flags.skip_append fun _ => hrest]
    · have hother (rest : List Char) (hmembers : b'.members = []) : c :: cs' ≠ ']' :: rest := by
        rintro heq
        exact closing ⟨hmembers, (List.cons.inj heq).1⟩
      split at h
      · rename_i hmembers heq
        exact absurd heq (hother _ hmembers)
      · cases h
        dsimp only
        split
        · rename_i hmembers heq
          exact absurd ⟨hmembers, (List.cons.inj heq).1⟩ closing
        · rfl

/-- The start of a bracket is read alike if something follows it. -/
theorem openBracket_append {b : Bracket} (h : openBracket f cs = (b, rest)) (hrest : rest ≠ []) :
    openBracket f (cs ++ t) = (b, rest ++ t) := by
  have nonempty {negated : Bool} {cs : List Char} (h : openMembers f negated cs = (b, rest)) :
      cs ≠ [] := by
    rintro rfl
    exact hrest (Prod.mk.inj h).2.symm
  by_cases hmark : ∃ more, f.skip cs = '^' :: more
  · obtain ⟨more, hskip⟩ := hmark
    rw [openBracket_negated hskip] at h
    rw [openBracket_negated (Flags.skip_append_cons hskip), Flags.skip_append fun _ => nonempty h]
    exact openMembers_append h hrest
  · rw [openBracket_plain (not_exists.mp hmark)] at h
    have hskip := Flags.skip_append (t := t) fun _ => nonempty h
    rw [openBracket_plain, hskip]
    · exact openMembers_append h hrest
    · intro more
      rw [hskip]
      obtain ⟨c, rs, heq⟩ := List.exists_cons_of_ne_nil (nonempty h)
      rw [heq]
      intro hcons
      exact hmark ⟨rs, by rw [heq, (List.cons.inj hcons).1]⟩

theorem readAtom_append {atom : Atom} (h : readAtom f cs = some (atom, rest)) :
    readAtom f (cs ++ ['$']) = some (atom, rest ++ ['$']) := by
  cases cs with
  | nil => cases h
  | cons c cs =>
    by_cases hc : c = '\\'
    · subst hc
      exact readEscape_append h
    · simp only [readAtom, List.cons_append] at h ⊢
      cases h
      rfl

theorem dropWhile_isBlank_append (cs : List Char) :
    (cs ++ ['$']).dropWhile Text.isBlank = cs.dropWhile Text.isBlank ++ ['$'] := by
  rw [List.dropWhile_append]
  split
  · rename_i hnil
    rw [List.isEmpty_iff.mp hnil]
    decide
  · rfl

/-- The text that a glance ahead gets to. -/
def shown (cs : List Char) : List Char :=
  match cs.dropWhile Text.isBlank with
  | '#' :: rest => rest.dropWhile Text.isBlank
  | rest => rest

theorem shown_append (cs : List Char) : shown (cs ++ ['$']) = shown cs ++ ['$'] := by
  unfold shown
  rw [dropWhile_isBlank_append]
  cases cs.dropWhile Text.isBlank with
  | nil => rfl
  | cons c rest =>
    by_cases hc : c = '#'
    · subst hc
      exact dropWhile_isBlank_append rest
    · simp [hc]

/-- If a glance gets to no text, the first character means nothing. -/
theorem head_of_shown {c : Char} (h : shown (c :: cs) = []) : Text.isBlank c = true ∨ c = '#' := by
  unfold shown at h
  by_cases blank : Text.isBlank c = true
  · exact .inl blank
  · rw [List.dropWhile_cons_of_neg blank] at h
    by_cases hc : c = '#'
    · exact .inr hc
    · simp [hc] at h

/-- Whether a dash stands for a range is seen from what is there. -/
theorem glance_append {c : Char} (hc : c = ']' ∨ c = '-') (cs : List Char) :
    f.glance (cs ++ ['$']) = some c ↔ f.glance cs = some c := by
  have hdollar : c ≠ '$' := by
    rcases hc with rfl | rfl <;> decide
  unfold Flags.glance
  by_cases spaced : (!f.spaced) = true
  · rw [if_pos spaced, if_pos spaced]
    cases cs with
    | nil => simp [hdollar.symm]
    | cons d cs => rfl
  · rw [if_neg spaced, if_neg spaced]
    change ((shown (cs ++ ['$'])).head? <|> (cs ++ ['$']).head?) = some c ↔
      ((shown cs).head? <|> cs.head?) = some c
    rw [shown_append]
    cases hshown : shown cs with
    | cons d rest => simp
    | nil =>
      have hnone : cs.head? ≠ some c := by
        cases cs with
        | nil => exact Option.some_ne_none c |>.symm
        | cons d cs =>
          rintro heq
          obtain rfl := Option.some.inj heq
          rcases hc with rfl | rfl <;> exact absurd (head_of_shown hshown) (by decide)
      simp [hdollar.symm, hnone]

/-- Whether a dash stands here for a range. -/
def rangeAt (f : Flags) (cs : List Char) : Bool :=
  match cs with
  | '-' :: more => f.glance more != some ']' && f.glance more != some '-'
  | _ => false

theorem rangeAt_append (cs : List Char) : rangeAt f (cs ++ ['$']) = rangeAt f cs := by
  cases cs with
  | nil => rfl
  | cons c cs =>
    by_cases hc : c = '-'
    · subst hc
      simp only [rangeAt, List.cons_append, bne, beq_eq_decide, glance_append (.inl rfl) cs,
        glance_append (.inr rfl) cs]
    · simp [rangeAt, hc]

theorem readMember_eq (f : Flags) (cs : List Char) : readMember f cs = (readAtom f cs).bind fun q =>
    if rangeAt f (f.skip q.2) then
      (readAtom f (f.skip ((f.skip q.2).drop 1))).bind fun q' =>
        (q.1.char? f).bind fun low => (q'.1.char? f).bind fun high =>
          if low ≤ high then some (⟨.ranges [(low.toNat, high.toNat)], 0⟩, q'.2) else none
    else match q.1 with
      | .char _ _ => (q.1.char? f).map fun c => (⟨.single c, 0⟩, f.skip q.2)
      | .set s => some (⟨s, 0⟩, f.skip q.2)
      | .look _ => none := rfl

/-- A member is read alike if something follows it in the bracket. -/
theorem readMember_append {m : Member} (h : readMember f cs = some (m, rest)) (hrest : rest ≠ []) :
    readMember f (cs ++ ['$']) = some (m, rest ++ ['$']) := by
  rw [readMember_eq] at h ⊢
  obtain ⟨⟨first, rs⟩, hfirst, h⟩ := Option.bind_eq_some_iff.mp h
  refine Option.bind_eq_some_iff.mpr ⟨_, readAtom_append hfirst, ?_⟩
  cases hskip : f.skip rs with
  | nil =>
    -- nothing follows, so this member is the last of a bracket that is not closed
    simp only [hskip, rangeAt, if_false, Bool.false_eq_true] at h
    cases first with
    | char c byte =>
      obtain ⟨c', -, heq⟩ := Option.map_eq_some_iff.mp h
      cases heq
      exact absurd rfl hrest
    | set s =>
      cases h
      exact absurd rfl hrest
    | look l => cases h
  | cons c more =>
    have hskip' := Flags.skip_append_cons (t := ['$']) hskip
    simp only [hskip, hskip'] at h ⊢
    rw [← List.cons_append, rangeAt_append]
    by_cases range : rangeAt f (c :: more) = true
    · rw [if_pos range] at h ⊢
      simp only [List.cons_append, List.drop_one, List.tail_cons] at h ⊢
      obtain ⟨⟨last, rs'⟩, hlast, h⟩ := Option.bind_eq_some_iff.mp h
      obtain ⟨low, hlow, h⟩ := Option.bind_eq_some_iff.mp h
      obtain ⟨high, hhigh, h⟩ := Option.bind_eq_some_iff.mp h
      have hmore : f.skip more ≠ [] := by
        intro hnil
        rw [hnil] at hlast
        cases hlast
      rw [Flags.skip_append fun _ => hmore]
      refine Option.bind_eq_some_iff.mpr ⟨_, readAtom_append hlast, ?_⟩
      refine Option.bind_eq_some_iff.mpr ⟨low, hlow, Option.bind_eq_some_iff.mpr ⟨high, hhigh, ?_⟩⟩
      by_cases le : low ≤ high
      · rw [if_pos le] at h ⊢
        cases h
        rfl
      · rw [if_neg le] at h
        cases h
    · rw [if_neg range] at h ⊢
      cases first with
      | char d byte =>
        obtain ⟨d', hd', heq⟩ := Option.map_eq_some_iff.mp h
        cases heq
        exact Option.map_eq_some_iff.mpr ⟨d', hd', rfl⟩
      | set s =>
        cases h
        rfl
      | look l => cases h

/-- A text in a bracket starts with a member. -/
def StartsMember (cs : List Char) : Prop :=
  cs.head? ≠ some '[' ∧ cs.head? ≠ some ']' ∧ ∀ c ∈ ['&', '-', '~'], ¬[c, c] <+: cs

theorem readBrackets_member {n : Nat} {b : Bracket} {outer : List Bracket} {c : Char}
    (hskip : f.skip cs = c :: rest) (starts : StartsMember (c :: rest)) :
    readBrackets f (n + 1) b outer cs =
      (readMember f (c :: rest)).bind fun (m, rest) => readBrackets f n (b.push m) outer rest := by
  obtain ⟨hopen, hclose, hop⟩ := starts
  rw [readBrackets, hskip]
  split
  · contradiction
  · rename_i heq
    exact absurd (by rw [heq]; rfl) hopen
  · rename_i heq
    exact absurd (by rw [heq]; rfl) hclose
  · rename_i more heq
    exact absurd ⟨more, heq.symm⟩ (hop '&' (by simp))
  · rename_i more heq
    exact absurd ⟨more, heq.symm⟩ (hop '-' (by simp))
  · rename_i more heq
    exact absurd ⟨more, heq.symm⟩ (hop '~' (by simp))
  · rfl

theorem readBrackets_nil {n : Nat} {b : Bracket} {outer : List Bracket} :
    readBrackets f n b outer [] = none := by
  cases n with
  | zero => rfl
  | succ n => simp [readBrackets]

/-- What is no bracket starts a member unless it is a character of an operation twice. -/
theorem startsMember_or {c : Char} (hopen : c ≠ '[') (hclose : c ≠ ']') (cs : List Char) :
    StartsMember (c :: cs) ∨ (c = '&' ∨ c = '-' ∨ c = '~') ∧ ∃ more, cs = c :: more := by
  by_cases hop : (c = '&' ∨ c = '-' ∨ c = '~') ∧ ∃ more, cs = c :: more
  · exact .inr hop
  · refine .inl ⟨by simpa using hopen, by simpa using hclose, ?_⟩
    rintro d hd ⟨more, heq⟩
    obtain ⟨rfl, rfl⟩ := List.cons.inj heq
    exact hop ⟨by simpa using hd, more, rfl⟩

theorem StartsMember.append {c : Char} (h : StartsMember (c :: cs)) :
    StartsMember (c :: (cs ++ ['$'])) := by
  obtain ⟨hopen, hclose, hop⟩ := h
  refine ⟨hopen, hclose, ?_⟩
  rintro d hd ⟨more, heq⟩
  obtain ⟨rfl, htail⟩ := List.cons.inj (show d :: d :: more = c :: (cs ++ ['$']) from heq)
  cases cs with
  | nil =>
    have hdollar : d = '$' := (List.cons.inj htail).1
    rw [hdollar] at hd
    exact absurd hd (by decide)
  | cons e cs =>
    have he : d = e := (List.cons.inj htail).1
    exact hop d hd ⟨cs, by rw [← he]; rfl⟩

/-- **Brackets are read alike**: what closes them is there. -/
theorem readBrackets_append : ∀ {n m : Nat} {b : Bracket} {outer : List Bracket} {cs rest : List Char}
    {found : Member}, n ≤ m → readBrackets f n b outer cs = some (found, rest) →
      readBrackets f m b outer (cs ++ ['$']) = some (found, rest ++ ['$'])
  | 0, _, _, _, _, _, _, _, h => by cases h
  | n + 1, m, b, outer, cs, rest, found, hm, h => by
    obtain ⟨m, rfl⟩ : ∃ k, m = k + 1 := ⟨m - 1, by omega⟩
    have hm := Nat.le_of_succ_le_succ hm
    have nonempty {b : Bracket} {outer : List Bracket} {cs : List Char}
        (h : readBrackets f n b outer cs = some (found, rest)) : cs ≠ [] := by
      rintro rfl
      rw [readBrackets_nil] at h
      cases h
    cases hskip : f.skip cs with
    | nil => simp [readBrackets, hskip] at h
    | cons c more =>
      have hskip' := Flags.skip_append_cons (t := ['$']) hskip
      by_cases hopen : c = '['
      · subst hopen
        simp only [readBrackets, hskip, hskip', scanAsciiClass_append] at h ⊢
        cases hclass : scanAsciiClass more with
        | some q =>
          obtain ⟨ranges, negated, rs⟩ := q
          simp only [hclass, Option.map_some] at h ⊢
          obtain ⟨set, hset, h⟩ := Option.bind_eq_some_iff.mp h
          exact Option.bind_eq_some_iff.mpr ⟨set, hset, readBrackets_append hm h⟩
        | none =>
          simp only [hclass, Option.map_none] at h ⊢
          rw [openBracket_append rfl (nonempty h)]
          exact readBrackets_append hm h
      · by_cases hclose : c = ']'
        · subst hclose
          simp only [readBrackets, hskip, hskip'] at h ⊢
          obtain ⟨closed, hclosed, h⟩ := Option.bind_eq_some_iff.mp h
          refine Option.bind_eq_some_iff.mpr ⟨closed, hclosed, ?_⟩
          cases outer with
          | nil =>
            cases h
            rfl
          | cons b outer => exact readBrackets_append hm h
        · rcases startsMember_or hopen hclose more with starts | ⟨hop, more, rfl⟩
          · rw [readBrackets_member hskip starts] at h
            rw [readBrackets_member hskip' starts.append]
            obtain ⟨⟨member, rs⟩, hmember, h⟩ := Option.bind_eq_some_iff.mp h
            have hmember' := readMember_append hmember (nonempty h)
            exact Option.bind_eq_some_iff.mpr ⟨_, hmember', readBrackets_append hm h⟩
          · rcases hop with rfl | rfl | rfl <;>
              simp only [readBrackets, hskip, hskip', List.cons_append] at h ⊢ <;>
              exact readBrackets_append hm h

theorem readBracket_append {m : Member} (h : readBracket f cs = some (m, rest)) :
    readBracket f (cs ++ ['$']) = some (m, rest ++ ['$']) := by
  simp only [readBracket] at h ⊢
  have hrest : (openBracket f cs).2 ≠ [] := by
    intro hnil
    rw [hnil, readBrackets_nil] at h
    cases h
  rw [openBracket_append rfl hrest]
  exact readBrackets_append (by simp) h

end DocTables.Regex
