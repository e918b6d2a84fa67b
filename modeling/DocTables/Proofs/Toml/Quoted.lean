/-
# TOML text in quotes is read back

A text is written in the first of four forms that it fits.  What stands for a character in double
quotes is the character itself, a backslash and a letter, or its number (`Spells`), and each is read
as that character, on one line (`scanBasic_spells`) and over several (`scanMultiBasic_spells`).

In three quotes, a run of quotes in the text may stand in front of the three that close it.  While the
text is read, up to two quotes may be behind the place that has been reached; they belong to the text
whether more text follows or the closing quotes do, and a third in a row is escaped, or there is none
(`scanMultiBasic_escapeLines`, `scanMultiLiteral_append`).  So a quoted text is read as the text that was
written, and what follows its line end is left (`scanQuoted_quote`).
-/
import Mathlib
import DocTables.Toml.Quoted

namespace DocTables.Toml

/-! ## 1. Characters in double quotes -/

/-- What can stand for a character in double quotes. -/
inductive Spells (c : Char) : List Char → Prop
  /-- The character itself. -/
  | plain (plain : isPlain c = true) (quote : c ≠ '"') (backslash : c ≠ '\\') : Spells c [c]
  /-- A letter for it. -/
  | letter {e : Char} (stands : escapes.lookup e = some c) : Spells c ['\\', e]
  /-- Its number. -/
  | code {h i j k : Char} (stands : character? [h, i, j, k] = some c) :
      Spells c ['\\', 'u', h, i, j, k]

theorem character?_padded : ∀ n < 0x80, character? (Text.Hex.padded true 4 n) = some (Char.ofNat n) := by
  decide

theorem lt_of_not_isPlain {c : Char} (h : isPlain c = false) : c.toNat < 0x80 := by
  simp only [isPlain, Bool.or_eq_false_iff, Bool.and_eq_false_iff, decide_eq_false_iff_not,
    bne_eq_false_iff_eq] at h
  omega

/-- **What is written for a character** can stand for it. -/
theorem spells_escape {c : Char} (quote : c ≠ '"') (line : c ≠ '\n') : Spells c (escape c) := by
  by_cases hletter : c ∈ ['\\', '\x08', '\t', '\x0c', '\r']
  · simp only [List.mem_cons, List.not_mem_nil, or_false] at hletter
    rcases hletter with rfl | rfl | rfl | rfl | rfl
    · exact .letter (e := '\\') rfl
    · exact .letter (e := 'b') rfl
    · exact .letter (e := 't') rfl
    · exact .letter (e := 'f') rfl
    · exact .letter (e := 'r') rfl
  · simp only [List.mem_cons, List.not_mem_nil, or_false, not_or] at hletter
    cases hplain : isPlain c with
    | true =>
      have hescape : escape c = [c] := by simp [escape, hletter, isControl, hplain]
      rw [hescape]
      exact .plain hplain quote hletter.1
    | false =>
      have hescape : escape c = '\\' :: 'u' :: Text.Hex.padded true 4 c.toNat := by
        simp [escape, hletter, isControl, hplain, line]
      have hcode := character?_padded c.toNat (lt_of_not_isPlain hplain)
      rw [Char.ofNat_toNat] at hcode
      rw [hescape]
      exact .code hcode

/-- What is written for a character on one line. -/
def lineForm (c : Char) : List Char :=
  if c == '"' then ['\\', '"'] else if c == '\n' then ['\\', 'n'] else escape c

theorem escapeLine_eq_flatMap (cs : List Char) : escapeLine cs = cs.flatMap lineForm := rfl

theorem spells_lineForm (c : Char) : Spells c (lineForm c) := by
  by_cases quote : c = '"'
  · subst quote
    exact .letter (e := '"') rfl
  · by_cases line : c = '\n'
    · subst line
      exact .letter (e := 'n') rfl
    · simpa [lineForm, quote, line] using spells_escape quote line

/-- No quote stands in front. -/
theorem Spells.eq_cons {c : Char} {text : List Char} (h : Spells c text) :
    ∃ d rest, text = d :: rest ∧ d ≠ '"' ∧ (d = '\n' → c = '\n') := by
  cases h with
  | plain plain quote backslash => exact ⟨c, [], rfl, quote, id⟩
  | letter stands => exact ⟨'\\', _, rfl, by decide, fun h => absurd h (by decide)⟩
  | code stands => exact ⟨'\\', _, rfl, by decide, fun h => absurd h (by decide)⟩

theorem lookup_escapes {e c : Char} (h : escapes.lookup e = some c) :
    e ≠ 'u' ∧ e ≠ 'U' ∧ isSpace e = false ∧ e ≠ '\n' := by
  refine ⟨?_, ?_, ?_, ?_⟩
  · rintro rfl
    cases h
  · rintro rfl
    cases h
  · rw [Bool.eq_false_iff]
    intro space
    simp only [isSpace, Bool.or_eq_true, beq_iff_eq] at space
    rcases space with rfl | rfl <;> cases h
  · rintro rfl
    cases h

/-- **On one line**, what stands for a character is read as it. -/
theorem scanBasic_spells {c : Char} {text : List Char} (h : Spells c text) (rest : List Char) :
    scanBasic (text ++ rest) = readCons c (scanBasic rest) := by
  cases h with
  | plain plain quote backslash =>
    rw [List.singleton_append, scanBasic]
    · simp [plain, backslash]
    · exact quote
    · exact fun _ _ _ _ _ hc _ => backslash hc
    · exact fun _ _ _ _ _ _ _ _ _ hc _ => backslash hc
    · exact fun _ _ hc _ => backslash hc
  | @letter e stands =>
    obtain ⟨hshort, hlong, -, -⟩ := lookup_escapes stands
    rw [List.cons_append, List.singleton_append, scanBasic, stands]
    · rfl
    · exact fun _ _ _ _ _ he _ => hshort he
    · exact fun _ _ _ _ _ _ _ _ _ he _ => hlong he
  | code stands =>
    simp only [List.cons_append, List.nil_append]
    rw [scanBasic, stands]
    rfl

theorem endsLine_cons {e : Char} (space : isSpace e = false) (line : e ≠ '\n') (rest : List Char) :
    endsLine (e :: rest) = false := by
  simp [endsLine, skipSpace, space, line]

/-- **Over several lines**, what stands for a character is read as it. -/
theorem scanMultiBasic_spells {c : Char} {text : List Char} (h : Spells c text) (rest : List Char) :
    scanMultiBasic false (text ++ rest) = readCons c (scanMultiBasic false rest) := by
  cases h with
  | plain plain quote backslash =>
    rw [List.singleton_append, scanMultiBasic]
    · simp [plain, backslash]
    · exact fun _ hc _ => quote hc
    · exact fun _ _ _ _ _ hc _ => backslash hc
    · exact fun _ _ _ _ _ _ _ _ _ hc _ => backslash hc
    · exact fun _ _ hc _ => backslash hc
  | @letter e stands =>
    obtain ⟨hshort, hlong, space, line⟩ := lookup_escapes stands
    rw [List.cons_append, List.singleton_append, scanMultiBasic, stands,
      endsLine_cons space line]
    · rfl
    · exact fun _ _ _ _ _ he _ => hshort he
    · exact fun _ _ _ _ _ _ _ _ _ he _ => hlong he
  | code stands =>
    simp only [List.cons_append, List.nil_append]
    rw [scanMultiBasic, stands]
    rfl

/-! ## 2. On one line -/

theorem scanBasic_escapeLine (rest : List Char) : ∀ cs : List Char,
    scanBasic (escapeLine cs ++ '"' :: rest) = some (cs, rest)
  | [] => by simp [escapeLine, scanBasic]
  | c :: cs => by
    rw [escapeLine_eq_flatMap, List.flatMap_cons, List.append_assoc, scanBasic_spells (spells_lineForm c),
      ← escapeLine_eq_flatMap, scanBasic_escapeLine rest cs]
    rfl

theorem scanLiteral_append (rest : List Char) : ∀ {cs : List Char}, '\'' ∉ cs →
    (∀ c ∈ cs, isPlain c = true) → scanLiteral (cs ++ '\'' :: rest) = some (cs, rest)
  | [], _, _ => rfl
  | c :: cs, hquote, hplain => by
    rw [List.mem_cons, not_or] at hquote
    obtain ⟨here, later⟩ := List.forall_mem_cons.mp hplain
    rw [List.cons_append, scanLiteral, if_neg (by simpa using Ne.symm hquote.1), if_pos here,
      scanLiteral_append rest hquote.2 later]
    rfl

/-! ## 3. Over several lines -/

/-- Up to two quotes stand in front of the closing ones. -/
theorem closing_replicate {quote : Char} {q : Nat} (hq : q ≤ 2) {rest : List Char}
    (hrest : rest.head? ≠ some quote) :
    closing quote (List.replicate q quote ++ rest) = (List.replicate q quote, rest) := by
  have hrun : ∀ n, (rest.take n).takeWhile (· == quote) = [] := by
    intro n
    cases rest with
    | nil => simp
    | cons d rest =>
      have hd : d ≠ quote := by simpa using hrest
      cases n with
      | zero => rfl
      | succ n => simp [hd]
  match q, hq with
  | 0, _ => simp [closing, hrun]
  | 1, _ => simp [closing, hrun]
  | 2, _ => simp [closing]

/-- Three quotes and those in front of them, in a row, close the text. -/
theorem replicate_append_three (quote : Char) (q : Nat) (rest : List Char) :
    List.replicate q quote ++ quote :: quote :: quote :: rest =
      quote :: quote :: quote :: (List.replicate q quote ++ rest) := by
  induction q with
  | zero => rfl
  | succ q ih => rw [List.replicate_succ, List.cons_append, ih, List.cons_append]

/-- What is read, with quotes in front of it. -/
def readQuotes (quote : Char) (q : Nat) (read : Read (List Char)) : Read (List Char) :=
  read.map fun (cs, rest) => (List.replicate q quote ++ cs, rest)

theorem scanMultiBasic_quote {text : List Char} (single : ¬['"', '"'] <+: text) :
    scanMultiBasic false ('"' :: text) = readCons '"' (scanMultiBasic false text) := by
  rw [scanMultiBasic]
  · rfl
  · rintro rest - rfl
    exact single ⟨rest, rfl⟩
  · exact fun _ _ _ _ _ hc _ => absurd hc (by decide)
  · exact fun _ _ _ _ _ _ _ _ _ hc _ => absurd hc (by decide)
  · exact fun _ _ hc _ => absurd hc (by decide)

/-- Two quotes in front of something else are part of the text. -/
theorem scanMultiBasic_quotes {q : Nat} (hq : q ≤ 2) {text : List Char}
    (hfirst : text.head? ≠ some '"') :
    scanMultiBasic false (List.replicate q '"' ++ text) =
      readQuotes '"' q (scanMultiBasic false text) := by
  have hnone : ¬['"', '"'] <+: text := by
    rintro ⟨rest, rfl⟩
    exact hfirst rfl
  have hone : ¬['"', '"'] <+: '"' :: text := by
    rintro ⟨rest, heq⟩
    exact hfirst (by rw [← (List.cons.inj heq).2]; rfl)
  match q, hq with
  | 0, _ => cases h : scanMultiBasic false text <;> simp [readQuotes, h]
  | 1, _ =>
    simp only [List.replicate_one, List.singleton_append, scanMultiBasic_quote hnone]
    rfl
  | 2, _ =>
    simp only [List.replicate_succ, List.replicate_zero, List.cons_append, List.nil_append,
      scanMultiBasic_quote hone, scanMultiBasic_quote hnone]
    cases scanMultiBasic false text <;> rfl

theorem scanMultiBasic_line (rest : List Char) :
    scanMultiBasic false ('\n' :: rest) = readCons '\n' (scanMultiBasic false rest) := by
  rw [scanMultiBasic]
  · rfl
  · exact fun _ hc _ => absurd hc (by decide)
  · exact fun _ _ _ _ _ hc _ => absurd hc (by decide)
  · exact fun _ _ _ _ _ _ _ _ _ hc _ => absurd hc (by decide)
  · exact fun _ _ hc _ => absurd hc (by decide)

/-- **Over several lines, escaped text is read back**, together with the quotes behind the place that
has been reached: so many quotes are behind it as have been counted. -/
theorem scanMultiBasic_escapeLines {rest : List Char} (hrest : rest.head? ≠ some '"') :
    ∀ (cs : List Char) {q : Nat}, q ≤ 2 →
      scanMultiBasic false (List.replicate q '"' ++ escapeLines q cs ++ '"' :: '"' :: '"' :: rest) =
        some (List.replicate q '"' ++ cs, rest)
  | [], q, hq => by
    rw [escapeLines, List.append_nil, replicate_append_three, scanMultiBasic,
      closing_replicate hq hrest]
  | c :: cs, q, hq => by
    have later := scanMultiBasic_escapeLines hrest cs (q := 0) (Nat.zero_le _)
    simp only [List.replicate_zero, List.nil_append] at later
    by_cases quote : c = '"'
    · subst quote
      by_cases third : q = 2
      · subst third
        have hescape : escapeLines 2 ('"' :: cs) = ['\\', '"'] ++ escapeLines 0 cs := rfl
        rw [hescape, List.append_assoc, scanMultiBasic_quotes hq (by simp), List.append_assoc,
          scanMultiBasic_spells (.letter (e := '"') rfl), later]
        rfl
      · have hescape : escapeLines q ('"' :: cs) = '"' :: escapeLines (q + 1) cs := by
          simp [escapeLines, third]
        have hmore := scanMultiBasic_escapeLines hrest cs (q := q + 1) (by omega)
        rw [List.replicate_succ'] at hmore
        rw [hescape]
        simpa using hmore
    · obtain ⟨form, hform, read, first⟩ : ∃ form, escapeLines q (c :: cs) = form ++ escapeLines 0 cs ∧
          (∀ rest, scanMultiBasic false (form ++ rest) = readCons c (scanMultiBasic false rest)) ∧
          ∃ d more, form = d :: more ∧ d ≠ '"' := by
        by_cases line : c = '\n'
        · subst line
          exact ⟨['\n'], rfl, scanMultiBasic_line, '\n', [], rfl, by decide⟩
        · have hspells := spells_escape quote line
          obtain ⟨d, more, hd, hquote, -⟩ := hspells.eq_cons
          exact ⟨escape c, by simp [escapeLines, quote, line], scanMultiBasic_spells hspells, d, more, hd,
            hquote⟩
      obtain ⟨d, more, rfl, hd⟩ := first
      rw [hform, List.append_assoc, List.append_assoc, scanMultiBasic_quotes hq (by simpa using hd), read,
        later]
      rfl

theorem scanMultiLiteral_cons {c : Char} {text : List Char} (legal : isPlain c = true ∨ c = '\n')
    (single : ¬['\'', '\'', '\''] <+: c :: text) :
    scanMultiLiteral (c :: text) = readCons c (scanMultiLiteral text) := by
  rw [scanMultiLiteral]
  · rw [if_pos (by simpa using legal)]
  · rintro rest rfl rfl
    exact single ⟨rest, rfl⟩

/-- **Over several lines, text in single quotes is read back**, unless it has three in a row. -/
theorem scanMultiLiteral_append {rest : List Char} (hrest : rest.head? ≠ some '\'') :
    ∀ {cs : List Char}, (∀ c ∈ cs, isPlain c = true ∨ c = '\n') →
      ¬List.replicate 3 '\'' <:+: cs →
        scanMultiLiteral (cs ++ '\'' :: '\'' :: '\'' :: rest) = some (cs, rest)
  | cs, legal, single => by
    by_cases quotes : ∃ q ≤ 2, cs = List.replicate q '\''
    · obtain ⟨q, hq, rfl⟩ := quotes
      rw [replicate_append_three, scanMultiLiteral, closing_replicate hq hrest]
    · match cs, legal, single with
      | [], _, _ => exact absurd ⟨0, by decide, rfl⟩ quotes
      | c :: cs, legal, single =>
        obtain ⟨here, later⟩ := List.forall_mem_cons.mp legal
        have hlater : ¬List.replicate 3 '\'' <:+: cs := fun h => single (h.trans (List.suffix_cons c cs).isInfix)
        have hopen : ¬['\'', '\'', '\''] <+: c :: (cs ++ '\'' :: '\'' :: '\'' :: rest) := by
          rintro ⟨more, heq⟩
          obtain ⟨rfl, hrest⟩ := List.cons.inj heq
          match cs, hrest with
          | [], _ => exact quotes ⟨1, by decide, rfl⟩
          | [d], hrest =>
            obtain ⟨rfl, -⟩ := List.cons.inj hrest
            exact quotes ⟨2, by decide, rfl⟩
          | d :: e :: cs, hrest =>
            obtain ⟨rfl, hthird⟩ := List.cons.inj hrest
            obtain ⟨rfl, -⟩ := List.cons.inj hthird
            exact single ⟨[], cs, rfl⟩
        rw [List.cons_append, scanMultiLiteral_cons here hopen,
          scanMultiLiteral_append hrest later hlater]
        rfl

/-! ## 4. The longest run of quotes -/

/-- The length of the run that is going on and of the longest one, after one more character. -/
def countRun (c : Char) (runs : Nat × Nat) (x : Char) : Nat × Nat :=
  if x == c then (runs.1 + 1, max runs.2 (runs.1 + 1)) else (0, runs.2)

theorem longestRun_eq (c : Char) (cs : List Char) :
    longestRun c cs = (cs.foldl (countRun c) (0, 0)).2 := rfl

theorem countRun_snd (c : Char) (runs : Nat × Nat) (x : Char) : runs.2 ≤ (countRun c runs x).2 := by
  unfold countRun
  split
  · exact Nat.le_max_left _ _
  · exact Nat.le_refl _

theorem foldl_countRun_snd (c : Char) : ∀ (cs : List Char) (runs : Nat × Nat),
    runs.2 ≤ (cs.foldl (countRun c) runs).2
  | [], _ => Nat.le_refl _
  | x :: cs, runs => (countRun_snd c runs x).trans (foldl_countRun_snd c cs _)

theorem foldl_countRun_replicate (c : Char) : ∀ (k : Nat) (runs : Nat × Nat), 0 < k →
    runs.1 + k ≤ ((List.replicate k c).foldl (countRun c) runs).2
  | 1, runs, _ => by simp [countRun]
  | k + 2, runs, _ => by
    have ih := foldl_countRun_replicate c (k + 1) (countRun c runs c) (Nat.succ_pos k)
    have hrun : (countRun c runs c).1 = runs.1 + 1 := by simp [countRun]
    rw [List.replicate_succ, List.foldl_cons]
    omega

/-- A run is no longer than the longest. -/
theorem le_longestRun {c : Char} {k : Nat} (hk : 0 < k) {cs : List Char}
    (h : List.replicate k c <:+: cs) : k ≤ longestRun c cs := by
  obtain ⟨before, after, rfl⟩ := h
  rw [longestRun_eq, List.foldl_append, List.foldl_append]
  refine Nat.le_trans ?_ (foldl_countRun_snd c after _)
  exact Nat.le_trans (Nat.le_add_left k _) (foldl_countRun_replicate c k _ hk)

theorem not_mem_of_longestRun {c : Char} {cs : List Char} (h : longestRun c cs = 0) : c ∉ cs := by
  intro hc
  obtain ⟨before, after, rfl⟩ := List.append_of_mem hc
  have hrun : List.replicate 1 c <:+: before ++ c :: after := ⟨before, after, by simp⟩
  exact absurd (le_longestRun (Nat.one_pos) hrun) (by omega)

/-! ## 5. The forms of a text -/

theorem scanQuoted_basic (cs rest : List Char) :
    scanQuoted (basic cs ++ '\n' :: rest) = some (cs, '\n' :: rest) := by
  have hopen : ¬['"', '"'] <+: escapeLine cs ++ '"' :: '\n' :: rest := by
    cases cs with
    | nil => simp [escapeLine]
    | cons c cs =>
      obtain ⟨d, more, hd, hquote, -⟩ := (spells_lineForm c).eq_cons
      rintro ⟨after, heq⟩
      rw [escapeLine_eq_flatMap, List.flatMap_cons, hd] at heq
      exact hquote (List.cons.inj heq).1.symm
  have hbasic : basic cs ++ '\n' :: rest = '"' :: (escapeLine cs ++ '"' :: '\n' :: rest) := by
    simp [basic]
  rw [hbasic, scanQuoted, scanBasic_escapeLine]
  rintro after heq
  exact hopen ⟨after, heq.symm⟩

theorem scanQuoted_literal {cs : List Char} (nonempty : cs ≠ []) (quote : '\'' ∉ cs)
    (plain : ∀ c ∈ cs, isPlain c = true) (rest : List Char) :
    scanQuoted (literal cs ++ '\n' :: rest) = some (cs, '\n' :: rest) := by
  have hliteral : literal cs ++ '\n' :: rest = '\'' :: (cs ++ '\'' :: '\n' :: rest) := by
    simp [literal]
  rw [hliteral, scanQuoted, scanLiteral_append _ quote plain]
  rintro after heq
  obtain ⟨c, cs, rfl⟩ := List.exists_cons_of_ne_nil nonempty
  exact quote (by simp [(List.cons.inj heq).1])

/-- The line end in front of a text, if there is one, is no part of it. -/
theorem skipFirstLine_firstLine {cs text : List Char} (h : '\n' ∉ cs → text.head? ≠ some '\n') :
    skipFirstLine (firstLine cs ++ text) = text := by
  unfold firstLine
  split
  · rfl
  · rename_i hline
    have hhead := h (by simpa using hline)
    cases text with
    | nil => rfl
    | cons c text =>
      rw [List.nil_append, skipFirstLine]
      rintro more heq
      exact hhead (by rw [heq]; rfl)

theorem scanQuoted_multiBasic (cs rest : List Char) :
    scanQuoted (multiBasic cs ++ '\n' :: rest) = some (cs, '\n' :: rest) := by
  have hmulti : multiBasic cs ++ '\n' :: rest = '"' :: '"' :: '"' ::
      (firstLine cs ++ (escapeLines 0 cs ++ '"' :: '"' :: '"' :: '\n' :: rest)) := by
    simp [multiBasic]
  rw [hmulti, scanQuoted, skipFirstLine_firstLine]
  · exact scanMultiBasic_escapeLines (by simp) cs (q := 0) (Nat.zero_le _)
  · intro hline
    cases cs with
    | nil => simp [escapeLines]
    | cons c cs =>
      rw [List.mem_cons, not_or] at hline
      by_cases quote : c = '"'
      · simp [escapeLines, quote]
      · obtain ⟨d, more, hd, -, hdline⟩ := (spells_escape quote (Ne.symm hline.1)).eq_cons
        have hform : escapeLines 0 (c :: cs) = d :: (more ++ escapeLines 0 cs) := by
          simp [escapeLines, quote, Ne.symm hline.1, hd]
        rw [hform]
        simpa using fun h => hline.1 (hdline h).symm

theorem scanQuoted_multiLiteral {cs : List Char} (legal : ∀ c ∈ cs, isPlain c = true ∨ c = '\n')
    (single : ¬List.replicate 3 '\'' <:+: cs) (rest : List Char) :
    scanQuoted (multiLiteral cs ++ '\n' :: rest) = some (cs, '\n' :: rest) := by
  have hmulti : multiLiteral cs ++ '\n' :: rest = '\'' :: '\'' :: '\'' ::
      (firstLine cs ++ (cs ++ '\'' :: '\'' :: '\'' :: '\n' :: rest)) := by
    simp [multiLiteral]
  rw [hmulti, scanQuoted, skipFirstLine_firstLine]
  · exact scanMultiLiteral_append (by simp) legal single
  · intro hline
    cases cs with
    | nil => simp
    | cons c cs => simpa using fun h => hline (by simp [h])

/-- What is no control character can stand over several lines. -/
theorem legal_of_not_isControl {cs : List Char} (h : cs.any isControl = false) :
    ∀ c ∈ cs, isPlain c = true ∨ c = '\n' := by
  intro c hc
  have hcontrol := List.any_eq_false.mp h c hc
  simpa [isControl, or_iff_not_imp_left] using hcontrol

/-- **A text in quotes is read back**, whichever form it is written in. -/
theorem scanQuoted_quote (cs rest : List Char) :
    scanQuoted (quote cs ++ '\n' :: rest) = some (cs, '\n' :: rest) := by
  unfold quote
  dsimp only
  split
  · exact scanQuoted_basic cs rest
  · rename_i hbasic
    split
    · rename_i hliteral
      simp only [Bool.and_eq_true, Bool.not_eq_true', beq_iff_eq] at hliteral
      obtain ⟨⟨control, line⟩, quotes⟩ := hliteral
      have hline : '\n' ∉ cs := by simpa using line
      refine scanQuoted_literal ?_ (not_mem_of_longestRun quotes) (fun c hc => ?_) rest
      · rintro rfl
        exact hbasic rfl
      · exact (legal_of_not_isControl control c hc).resolve_right fun h => hline (h ▸ hc)
    · split
      · exact scanQuoted_multiBasic cs rest
      · split
        · rename_i hmulti
          simp only [Bool.and_eq_true, Bool.not_eq_true', decide_eq_true_eq] at hmulti
          refine scanQuoted_multiLiteral (legal_of_not_isControl hmulti.1) (fun h => ?_) rest
          exact absurd (le_longestRun (by decide) h) (by omega)
        · split
          · exact scanQuoted_multiBasic cs rest
          · exact scanQuoted_basic cs rest

/-! ## 6. Line ends -/

/-- No carriage return is written: there is a letter for it. -/
theorem carriage_not_mem_escape (c : Char) : '\r' ∉ escape c := by
  have hascii : ∀ n < 0x80, '\r' ∉ escape (Char.ofNat n) := by decide
  by_cases hc : c.toNat < 0x80
  · simpa using hascii c.toNat hc
  · have hplain : isPlain c = true := by
      rw [← Bool.not_eq_false]
      exact mt lt_of_not_isPlain hc
    have hne (d : Char) (hd : d.toNat < 0x80) : c ≠ d := fun h => hc (h ▸ hd)
    have hescape : escape c = [c] := by
      simp [escape, isControl, hplain, hne _ (by decide : '\\'.toNat < 0x80),
        hne _ (by decide : '\x08'.toNat < 0x80), hne _ (by decide : '\t'.toNat < 0x80),
        hne _ (by decide : '\x0c'.toNat < 0x80), hne _ (by decide : '\r'.toNat < 0x80)]
    rw [hescape, List.mem_singleton]
    exact (hne _ (by decide)).symm

theorem carriage_not_mem_escapeLine (cs : List Char) : '\r' ∉ escapeLine cs := by
  rw [escapeLine_eq_flatMap, List.mem_flatMap]
  rintro ⟨c, -, hc⟩
  unfold lineForm at hc
  split at hc
  · exact absurd hc (by decide)
  · split at hc
    · exact absurd hc (by decide)
    · exact carriage_not_mem_escape c hc

theorem carriage_not_mem_escapeLines : ∀ (q : Nat) (cs : List Char), '\r' ∉ escapeLines q cs
  | _, [] => by simp [escapeLines]
  | q, c :: cs => by
    have later (q : Nat) := carriage_not_mem_escapeLines q cs
    unfold escapeLines
    split
    · split
      · simp [later]
      · simp [later]
    · split
      · simp [later]
      · simp [later, carriage_not_mem_escape]

theorem carriage_not_mem_basic (cs : List Char) : '\r' ∉ basic cs := by
  simp [basic, carriage_not_mem_escapeLine]

theorem carriage_not_mem_of_legal {cs : List Char} (legal : ∀ c ∈ cs, isPlain c = true ∨ c = '\n') :
    '\r' ∉ cs := fun h => absurd (legal _ h) (by decide)

theorem carriage_not_mem_literal {cs : List Char} (h : '\r' ∉ cs) : '\r' ∉ literal cs := by
  simp [literal, h]

theorem carriage_not_mem_firstLine (cs : List Char) : '\r' ∉ firstLine cs := by
  unfold firstLine
  split <;> decide

theorem carriage_not_mem_multiBasic (cs : List Char) : '\r' ∉ multiBasic cs := by
  simp [multiBasic, carriage_not_mem_firstLine, carriage_not_mem_escapeLines]

theorem carriage_not_mem_quote (cs : List Char) : '\r' ∉ quote cs := by
  unfold quote
  dsimp only
  split
  · exact carriage_not_mem_basic cs
  · split
    · rename_i hliteral
      simp only [Bool.and_eq_true, Bool.not_eq_true'] at hliteral
      exact carriage_not_mem_literal
        (carriage_not_mem_of_legal (legal_of_not_isControl hliteral.1.1))
    · split
      · exact carriage_not_mem_multiBasic cs
      · split
        · rename_i hmulti
          simp only [Bool.and_eq_true, Bool.not_eq_true'] at hmulti
          have hcs := carriage_not_mem_of_legal (legal_of_not_isControl hmulti.1)
          simp [multiLiteral, carriage_not_mem_firstLine, hcs]
        · split
          · exact carriage_not_mem_multiBasic cs
          · exact carriage_not_mem_basic cs

end DocTables.Toml
