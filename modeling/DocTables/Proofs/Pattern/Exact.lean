/-
# Templates that stand for themselves

A template that is refused as a regular expression is matched as it stands, braces included.  In its
escaped text every character is read in one step, with or without a backslash in front, and means
only itself (`reads_escaped`).  So the escaped text is never refused (`parse?_exactSource`), whatever
the template is made of; it matches what is equal to the template up to case
(`isMatch_exact_iff`), unless it is too large.

So there is a pattern for every template, and in a set one for every segment that is not blank.
-/
import DocTables.Pattern.Set
import DocTables.Proofs.Pattern.Plain

namespace DocTables

open Regex (Reader)

/-! ## 1. Reading escaped text -/

namespace Regex

theorem metaChars_eq : metaChars = ['\\', '.', '+', '*', '?', '(', ')', '|', '[', ']', '\x7b', '\x7d',
    '^', '$', '#', '&', '-', '~'] := by decide

/-- No character with a meaning of its own is a letter that means something after a backslash. -/
theorem metaChars_letters : (metaChars.all fun c =>
    ['x', 'u', 'U', 'p', 'P', 'd', 's', 'w', 'D', 'S', 'W'].all (c != ·)) = true := by
  rw [metaChars_eq]
  decide

theorem mem_metaChars_of_isSpecial {c : Char} (h : Template.isSpecial c = true) : c ∈ metaChars := by
  simp only [Template.isSpecial, List.contains_cons, List.contains_nil, Bool.or_eq_true, beq_iff_eq,
    Bool.false_eq_true, or_false] at h
  rw [metaChars_eq]
  rcases h with rfl | rfl | rfl | rfl | rfl | rfl | rfl | rfl | rfl | rfl | rfl | rfl <;> simp

/-- A backslash takes its meaning from a character that has one. -/
theorem readEscape_meta {f : Flags} {c : Char} {t : List Char} (h : c ∈ metaChars) :
    readEscape f (c :: t) = some (.char c false, t) := by
  have escapable : isEscapable c = true := by simp [isEscapable, h]
  have hother := List.all_eq_true.mp metaChars_letters c h
  simp only [List.all_cons, List.all_nil, Bool.and_eq_true, bne_iff_ne, and_true] at hother
  simp [readEscape, escapable, hother]

namespace Reader

open Template (Piece)

variable {r r' : Reader} {t : List Char}

theorem step_meta {c : Char} (hflags : r.flags = .initial) (h : c ∈ metaChars) :
    r.step '\\' (c :: t) = some (r.readPiece (.literal c), t) := by
  have hstep : r.step '\\' (c :: t) = (readEscape r.flags (c :: t)).bind fun q =>
      (r.pushAtom q.1).bind fun r => some (r, q.2) := rfl
  rw [hstep, readEscape_meta h]
  obtain ⟨flags, level, outer, groups, names⟩ := r
  obtain rfl : flags = .initial := hflags
  rfl

/-- **Escaped text** is read one character a step, each as itself. -/
theorem reads_escaped {n : Nat} : ∀ {text : List Char} {r : Reader}, r.flags = .initial →
    Reads n (r.readPieces (text.map .literal)) t r' →
      ∃ m ≤ (escaped text).length, Reads (n + m) r (escaped text ++ t) r'
  | [], r, _, later => ⟨0, Nat.le_refl _, later⟩
  | c :: text, r, hflags, later => by
    have hskip (cs : List Char) : r.flags.skip cs = cs := by
      rw [hflags]
      rfl
    rw [List.map_cons, readPieces_cons] at later
    obtain ⟨m, hm, reads⟩ := reads_escaped (r := r.readPiece (.literal c)) hflags later
    by_cases special : c ∈ metaChars
    · have hescaped : escaped (c :: text) = '\\' :: c :: escaped text := by
        simp [escaped, special]
      rw [hescaped]
      refine ⟨m + 1, ?_, .step (hskip _) (step_meta hflags special) reads⟩
      simp only [List.length_cons]
      omega
    · have hescaped : escaped (c :: text) = c :: escaped text := by
        simp [escaped, special]
      have ordinary : Template.isSpecial c = false :=
        Bool.not_eq_true _ ▸ mt mem_metaChars_of_isSpecial special
      rw [hescaped]
      exact ⟨m + 1, Nat.succ_le_succ hm, .step (hskip _) (step_literal hflags ordinary) reads⟩

end Reader

theorem numbered_literals (groups : Nat) : ∀ text : List Char,
    Template.numbered groups (text.map .literal) = []
  | [] => rfl
  | _ :: text => numbered_literals groups text

/-- **The escaped text of a template** is not refused: it has one part for every character. -/
theorem parse?_exactSource (text : List Char) : parse? (Template.exactSource text) =
    some ⟨.concat (.look .textStart) (Template.tailExpr 0 (text.map .literal)), []⟩ := by
  have hread : ∃ m ≤ (escaped text).length, Reader.Reads (1 + m) (Reader.start.push .start)
      (escaped text ++ ['$'])
      (((Reader.start.push .start).readPieces (text.map .literal)).push ⟨.look .textFinish, 0, true⟩) :=
    Reader.reads_escaped rfl (.step (c := '$') rfl rfl (.done rfl))
  have hparse := parse?_of_reads hread
  rw [numbered_literals] at hparse
  exact hparse

end Regex

/-! ## 2. What is matched -/

/-- Text without placeholders fits a name if they are equal up to case. -/
theorem Template.fits_literals_iff : ∀ {text cs : List Char} {texts : List (List Char)},
    Fits (text.map .literal) texts cs ↔
      texts = [] ∧ List.Forall₂ (fun c d => Text.foldChar c = Text.foldChar d) text cs
  | [], cs, texts => by
    constructor
    · intro h
      cases h with
      | nil => exact ⟨rfl, .nil⟩
    · rintro ⟨rfl, h⟩
      cases h with
      | nil => exact .nil
  | c :: text, cs, texts => by
    simp only [List.map_cons, fits_literal_iff, fits_literals_iff, List.forall₂_cons_left_iff,
      Text.sameFold, beq_iff_eq]
    constructor
    · rintro ⟨d, rest, rfl, here, hnil, later⟩
      exact ⟨hnil, d, rest, here, later, rfl⟩
    · rintro ⟨hnil, d, rest, here, later, rfl⟩
      exact ⟨d, rest, rfl, here, hnil, later⟩

namespace Pattern

variable {template : String}

theorem matcher_exact {text : List Char}
    (small : (Regex.parse? (Template.exactSource text)).all (·.expr.fits) = true) :
    Matcher.exact text = .regex ⟨Template.program (text.map .literal), []⟩ := by
  rw [Regex.parse?_exactSource, Option.all_some] at small
  have compiles := Regex.ofText?_eq_some_iff.mpr ⟨_, Regex.parse?_exactSource text, small, rfl⟩
  rw [Matcher.exact, compiles]
  rfl

/-- What the pattern of a template is that is refused as a regular expression. -/
theorem ofTemplate_of_refused (refused : Regex.ofText? (Template.source (Template.pieces template)) = none) :
    ofTemplate template =
      ⟨Template.canonicalName (Template.pieces template), [], .exact template.toList⟩ := by
  simp only [ofTemplate, refused]

/-- **A text that stands for itself** matches what is equal to it up to case, and nothing else. -/
theorem isMatch_exact_iff (refused : Regex.ofText? (Template.source (Template.pieces template)) = none)
    (small : (Regex.parse? (Template.exactSource template.toList)).all (·.expr.fits) = true)
    (name : String) : (ofTemplate template).isMatch name = true ↔
      List.Forall₂ (fun c d => Text.foldChar c = Text.foldChar d) template.toList name.toList := by
  rw [ofTemplate_of_refused refused, matcher_exact small]
  refine (Template.isSome_find?_program_iff _ name.toList.toArray).trans ?_
  simp only [Template.fits_literals_iff, exists_eq_left]

theorem captures_of_refused (refused : Regex.ofText? (Template.source (Template.pieces template)) = none)
    (name : String) : (ofTemplate template).captures name = .empty := by
  rw [ofTemplate_of_refused refused]
  unfold captures
  split
  · dsimp only [List.filterMap_nil]
    split <;> rfl
  · rfl

end Pattern

/-! ## 3. Sets of patterns -/

namespace PatternSet

theorem segments_eq_splitOn : ∀ cs : List Char, segments cs = cs.splitOn ';'
  | [] => rfl
  | c :: cs => by
    rw [segments, segments_eq_splitOn cs, List.splitOn_eq_splitOnP, List.splitOn_eq_splitOnP,
      List.splitOnP_cons_eq_if_modifyHead]
    refine if_congr Iff.rfl rfl ?_
    cases h : cs.splitOnP (· == ';') with
    | nil => exact absurd h (List.splitOnP_ne_nil _ _)
    | cons first others => rfl

theorem trimChars_eq_nil_iff (cs : List Char) :
    Text.trimChars cs = [] ↔ ∀ c ∈ cs, Text.isBlank c = true := by
  simp only [Text.trimChars, List.reverse_eq_nil_iff, List.dropWhile_eq_nil_iff, List.mem_reverse]
  refine ⟨fun h => ?_, fun h c hc => h c ((List.dropWhile_sublist _).subset hc)⟩
  rw [← List.takeWhile_append_dropWhile (p := Text.isBlank) (l := cs)]
  intro c hc
  rcases List.mem_append.mp hc with hc | hc
  · exact List.mem_takeWhile_imp hc
  · exact h c hc

/-- **There is a pattern for every segment that is not blank**, in order. -/
theorem patterns_ofText (text : String) : (ofText text).patterns =
    ((text.toList.splitOn ';').filter fun s => !s.all Text.isBlank).map
      fun s => .ofTemplate (Text.trim (String.ofList s)) := by
  have hfilter (s : List Char) : (!(Text.trimChars s).isEmpty) = !s.all Text.isBlank := by
    rw [Bool.eq_iff_iff, Bool.not_eq_true', Bool.not_eq_true', ← Bool.not_eq_true, ← Bool.not_eq_true,
      List.isEmpty_iff, List.all_eq_true, trimChars_eq_nil_iff]
  simp only [ofText, segments_eq_splitOn, List.filter_map, List.map_map, Function.comp_def, hfilter,
    Text.trim, String.toList_ofList]

end PatternSet

/-- **Every template gives a pattern.**  A template that is refused as a regular expression has no
placeholders and captures nothing; unless its escaped text is too large, it matches a name exactly if
the name is equal to the whole template, braces included, up to simple case folding of each
character.  So a configuration gives one pattern for each of its segments between semicolons that is
not blank, in their order, and none is left out. -/
theorem refused_matches_itself :
    (∀ template, Regex.ofText? (Template.source (Template.pieces template)) = none →
      (Regex.parse? (Template.exactSource template.toList)).all (·.expr.fits) = true →
      (Pattern.ofTemplate template).placeholders = [] ∧
      (∀ name, (Pattern.ofTemplate template).captures name = .empty) ∧
      ∀ name, (Pattern.ofTemplate template).isMatch name = true ↔
        List.Forall₂ (fun c d => Text.foldChar c = Text.foldChar d) template.toList name.toList) ∧
    ∀ text : String, (PatternSet.ofText text).patterns =
      ((text.toList.splitOn ';').filter fun s => !s.all Text.isBlank).map
        fun s => Pattern.ofTemplate (Text.trim (String.ofList s)) := by
  refine ⟨fun template refused small => ⟨?_, ?_, ?_⟩, PatternSet.patterns_ofText⟩
  · rw [Pattern.ofTemplate_of_refused refused]
  · exact Pattern.captures_of_refused refused
  · exact Pattern.isMatch_exact_iff refused small

/-- A parenthesis is left open and a placeholder has no name of a group: the template matches itself
in other case, with the sign for kelvin in place of a letter, and no other name. -/
theorem refused_matches_itself_kelvin :
    let template := "bad(k_\x7b\x7bx-y\x7d\x7d"
    Regex.ofText? (Template.source (Template.pieces template)) = none ∧
      (Regex.parse? (Template.exactSource template.toList)).all (·.expr.fits) = true ∧
      (Pattern.ofTemplate template).isMatch "BAD(\u212A_\x7b\x7bX-y\x7d\x7d" = true ∧
      (Pattern.ofTemplate template).isMatch "bad(k_1" = false ∧
      (PatternSet.ofText "a; ;bad(k_\x7b\x7bx-y\x7d\x7d ;").patterns =
        [Pattern.ofTemplate "a", Pattern.ofTemplate template] := by
  intro template
  have refused : Regex.ofText? (Template.source (Template.pieces template)) = none := by
    decide +kernel
  have small : (Regex.parse? (Template.exactSource template.toList)).all (·.expr.fits) = true := by
    decide +kernel
  obtain ⟨-, -, hmatch⟩ := refused_matches_itself.1 template refused small
  refine ⟨refused, small, (hmatch _).mpr (by decide +kernel), ?_, ?_⟩
  · rw [← Bool.not_eq_true, hmatch]
    decide +kernel
  · have hsegments : (("a; ;bad(k_\x7b\x7bx-y\x7d\x7d ;".toList.splitOn ';').filter fun s =>
        !s.all Text.isBlank) = ["a".toList, "bad(k_\x7b\x7bx-y\x7d\x7d ".toList] := by decide +kernel
    have htrim : Text.trim "bad(k_\x7b\x7bx-y\x7d\x7d " = template := by decide +kernel
    rw [refused_matches_itself.2, hsegments, List.map_cons, List.map_singleton, String.ofList_toList,
      String.ofList_toList, htrim]
    rfl

end DocTables
