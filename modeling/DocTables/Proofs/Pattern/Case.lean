/-
# Names that differ in case match alike

A template sets switches only if in its own text a question mark behind a parenthesis is followed by
the letter of a switch or by a dash (`Template.setsSwitches_eq_false`): placeholders add none.  Without
switches it does not tell names apart that differ in the case of ASCII letters only: its regular
expression has no set that does, and neither has that of a template which stands for itself
(`ignoresCase_ofTemplate`).  The machine takes the same way through both names and notes the same
places, so the placeholders stand for the same bytes (`range?_eq`).

What a set of such patterns says about a collection or a table does not depend on the case of its name
either; a collection that no pattern matches keeps its own name, in its own case.
-/
import Mathlib
import DocTables.Pattern.Set
import DocTables.Proofs.Pattern.Exact
import DocTables.Proofs.Regex.Switches

namespace DocTables

open Regex.Flags (marks)
open Text (eqIgnoreCase eqIgnoreCase_iff)

/-! ## 1. Templates without switches -/

/-- What stands in a text that a character cuts in two, and does not have that character, stands in
one of the parts. -/
theorem infix_of_apart {d : Char} {p a b : List Char} (hd : d ∉ p) (h : p <:+: a ++ d :: b) :
    p <:+: a ∨ p <:+: b := by
  have nothing {q : List Char} (hq : d ∉ q) (h : q <+: d :: b) : q = [] := by
    rcases List.prefix_cons_iff.mp h with rfl | ⟨t, rfl, -⟩
    · rfl
    · exact absurd List.mem_cons_self hq
  rcases List.infix_append_iff.mp h with h | h | ⟨l, m, rfl, hl, hm⟩
  · exact .inl h
  · rcases List.infix_cons_iff.mp h with h | h
    · rw [nothing hd h]
      exact .inl List.nil_infix
    · exact .inr h
  · rw [nothing (fun hmem => hd (List.mem_append_right l hmem)) hm, List.append_nil]
    exact .inl hl.isInfix

namespace Template

/-- Whether the text of a template sets switches. -/
def setsSwitches (template : String) : Bool := Regex.setsSwitches (source (pieces template))

theorem eq_of_scanName : ∀ {cs name rest : List Char}, scanName cs = some (name, rest) →
    cs = name ++ '\x7d' :: '\x7d' :: rest := by
  intro cs
  fun_induction scanName cs with
  | case1 => intro name rest h; cases h
  | case2 rest' =>
    intro name rest h
    cases h
    rfl
  | case3 c cs hbraces hline => intro name rest h; cases h
  | case4 c cs hbraces hline ih =>
    intro name rest h
    obtain ⟨⟨name', rest'⟩, hrec, heq⟩ := Option.bind_eq_some_iff.mp h
    cases heq
    rw [ih hrec]
    rfl

/-- What starts the text of a template as a regular expression starts the template, up to a placeholder:
that starts with a parenthesis there. -/
theorem prefix_of_body {fuel : Nat} {cs p : List Char} (hp : '(' ∉ p)
    (h : p <+: body (scanPieces fuel cs)) : p <+: cs := by
  fun_induction scanPieces fuel cs generalizing p with
  | case1 => exact List.prefix_nil.mp h ▸ List.nil_prefix
  | case2 => exact List.prefix_nil.mp h ▸ List.nil_prefix
  | case3 fuel rest name rest' hname ih =>
    rw [Regex.Reader.body_placeholder] at h
    rcases List.prefix_cons_iff.mp h with rfl | ⟨t, rfl, -⟩
    · exact List.nil_prefix
    · exact absurd List.mem_cons_self hp
  | case4 fuel rest hname ih =>
    rcases List.prefix_cons_iff.mp h with rfl | ⟨t, rfl, ht⟩
    · exact List.nil_prefix
    · exact (List.prefix_cons_inj _).mpr (ih (fun hmem => hp (List.mem_cons_of_mem _ hmem)) ht)
  | case5 fuel c rest hbraces ih =>
    rcases List.prefix_cons_iff.mp h with rfl | ⟨t, rfl, ht⟩
    · exact List.nil_prefix
    · exact (List.prefix_cons_inj _).mpr (ih (fun hmem => hp (List.mem_cons_of_mem _ hmem)) ht)

/-- The anchors, and the signs in the group of a placeholder, do not stand where switches are set. -/
theorem marks_apart : ∀ c ∈ marks, ∀ d ∈ ['^', '$', 'P', '<', '>', ')'], d ∉ ['(', '?', c] := by
  simp [marks]

theorem paren_apart : ∀ c ∈ marks, '(' ∉ ['?', c] := by
  simp [marks]

/-- A place where a switch might be set stands in the template if it stands in its text as a regular
expression: the groups of placeholders have none. -/
theorem infix_of_body {fuel : Nat} {cs : List Char} {c : Char} (hc : c ∈ marks)
    (h : ['(', '?', c] <:+: body (scanPieces fuel cs)) : ['(', '?', c] <:+: cs := by
  have literal {d : Char} {fuel : Nat} {rest : List Char}
      (ih : ['(', '?', c] <:+: body (scanPieces fuel rest) → ['(', '?', c] <:+: rest)
      (h : ['(', '?', c] <:+: d :: body (scanPieces fuel rest)) : ['(', '?', c] <:+: d :: rest := by
    rcases List.infix_cons_iff.mp h with h | h
    · obtain ⟨rfl, ht⟩ := List.cons_prefix_cons.mp h
      exact ((List.prefix_cons_inj _).mpr (prefix_of_body (paren_apart c hc) ht)).isInfix
    · exact (ih h).trans (List.suffix_cons d rest).isInfix
  fun_induction scanPieces fuel cs with
  | case1 => exact absurd (List.infix_nil.mp h) (List.cons_ne_nil _ _)
  | case2 => exact absurd (List.infix_nil.mp h) (List.cons_ne_nil _ _)
  | case3 fuel rest name rest' hscan ih =>
    have hrest := eq_of_scanName hscan
    have hbody : body (.placeholder (String.ofList name) :: scanPieces fuel rest') =
        ['(', '?', 'P'] ++ '<' :: (name ++ '>' :: ("[a-zA-Z0-9]*?".toList ++
          ')' :: body (scanPieces fuel rest'))) := by
      rw [Regex.Reader.body_placeholder, String.toList_ofList]
      rfl
    rw [hbody] at h
    rcases infix_of_apart (marks_apart c hc _ (by decide)) h with h | h
    · have hname : 'P' ∈ ['(', '?', c] := by
        rw [h.eq_of_length rfl]
        decide
      exact absurd hname (marks_apart c hc _ (by decide))
    · rcases infix_of_apart (marks_apart c hc _ (by decide)) h with h | h
      · have inside : name <:+: '\x7b' :: '\x7b' :: rest := ⟨['\x7b', '\x7b'], _, by simp [hrest]; rfl⟩
        exact h.trans inside
      · rcases infix_of_apart (marks_apart c hc _ (by decide)) h with h | h
        · have hmem : '(' ∈ "[a-zA-Z0-9]*?".toList := h.subset List.mem_cons_self
          exact absurd hmem (by decide)
        · have after : rest' <:+: '\x7b' :: '\x7b' :: rest :=
            ⟨'\x7b' :: '\x7b' :: name ++ ['\x7d', '\x7d'], [], by simp [hrest]⟩
          exact (ih h).trans after
  | case4 fuel rest hname ih => exact literal ih h
  | case5 fuel c rest hbraces ih => exact literal ih h

/-- **A template sets no switches** if nowhere in its text a question mark behind a parenthesis is
followed by the letter of a switch or by a dash. -/
theorem setsSwitches_eq_false {template : String}
    (plain : ∀ c ∈ marks, ¬['(', '?', c] <:+: template.toList) : setsSwitches template = false := by
  refine Regex.setsSwitches_eq_false fun c hc h => plain c hc ?_
  have anchored : ['(', '?', c] <:+: [] ++ '^' :: (body (pieces template) ++ '$' :: []) := h
  rcases infix_of_apart (marks_apart c hc _ (by decide)) anchored with h | h
  · exact absurd (List.infix_nil.mp h) (List.cons_ne_nil _ _)
  · rcases infix_of_apart (marks_apart c hc _ (by decide)) h with h | h
    · exact infix_of_body hc h
    · exact absurd (List.infix_nil.mp h) (List.cons_ne_nil _ _)

/-- A group with switches sets them, but neither a group without any nor an escaped parenthesis. -/
example : setsSwitches "a(?-i:b)" = true ∧ setsSwitches "\\(?-i:b(?:c)" = false := by decide +kernel

/-! ## 2. Expressions without switches -/

theorem ignoresCase_of_mem_parts : ∀ {groups : Nat} {pieces : List Piece}, ∀ p ∈ parts groups pieces,
    p.expr.IgnoresCase
  | _, [], p, hp => nomatch hp
  | groups, .literal c :: pieces, p, hp => by
    rcases List.mem_cons.mp hp with rfl | hp
    · exact Regex.CharSet.ignoresCase_folded _
    · exact ignoresCase_of_mem_parts p hp
  | groups, .placeholder name :: pieces, p, hp => by
    rcases List.mem_cons.mp hp with rfl | hp
    · exact Regex.CharSet.ignoresCase_folded _
    · exact ignoresCase_of_mem_parts p hp

theorem ignoresCase_tailExpr (groups : Nat) (pieces : List Piece) :
    (tailExpr groups pieces).IgnoresCase := by
  refine Regex.Expr.ignoresCase_concatOf fun e he => ?_
  rcases List.mem_append.mp he with he | he
  · obtain ⟨p, hp, rfl⟩ := List.mem_map.mp he
    exact ignoresCase_of_mem_parts p hp
  · cases List.mem_singleton.mp he
    trivial

end Template

namespace Regex

/-- **A pattern that sets no switches** has no set that tells the case. -/
theorem ignoresCase_parse? {source : List Char} (unset : setsSwitches source = false)
    {parsed : Parsed} (h : parse? source = some parsed) : parsed.expr.IgnoresCase := by
  obtain ⟨r, hread, -, -, rfl⟩ := parse?_eq_some_iff.mp h
  obtain ⟨n, hn, reads⟩ := Reader.readAll_eq_some_iff.mp hread
  exact (reads.ignoresCase Reader.ignoresCase_start (Nat.le_of_lt hn) unset).level.body

end Regex

/-! ## 3. One pattern -/

namespace Pattern

/-- The pattern has no set that tells the case. -/
def IgnoresCase (p : Pattern) : Prop := ∀ r, p.matcher = .regex r → r.program.IgnoresCase

theorem ignoresCase_exact {text : List Char} {r : Regex} (h : Matcher.exact text = .regex r) :
    r.program.IgnoresCase := by
  unfold Matcher.exact at h
  split at h
  · rename_i regex compiles
    cases h
    obtain ⟨parsed, hparse, -, rfl⟩ := Regex.ofText?_eq_some_iff.mp compiles
    rw [Regex.parse?_exactSource] at hparse
    cases hparse
    exact Regex.Program.ignoresCase_ofExpr ⟨trivial, Template.ignoresCase_tailExpr 0 _⟩
  · cases h

/-- **The pattern of a template** ignores case, unless the template sets switches. -/
theorem ignoresCase_ofTemplate {template : String} (unset : Template.setsSwitches template = false) :
    (ofTemplate template).IgnoresCase := by
  intro r hr
  unfold ofTemplate at hr
  dsimp only at hr
  split at hr
  · rename_i regex compiles
    cases hr
    obtain ⟨parsed, hparse, -, rfl⟩ := Regex.ofText?_eq_some_iff.mp compiles
    exact Regex.Program.ignoresCase_ofExpr (Regex.ignoresCase_parse? unset hparse)
  · exact ignoresCase_exact hr

/-- The number of bytes in front of a place of a name. -/
def bytesBefore (name : String) (pos : Nat) : Nat :=
  (String.ofList (name.toList.take pos)).utf8ByteSize

/-- The bytes of a name that a placeholder stands for, from the first to behind the last. -/
def range? (p : Pattern) (name placeholder : String) : Option (Nat × Nat) :=
  match p.matcher with
  | .regex r => do
    let notes ← r.find? name.toList.toArray
    let index ← r.names.lookup placeholder
    let start ← notes.lookup (2 * index)
    let finish ← notes.lookup (2 * index + 1)
    return (bytesBefore name start, bytesBefore name finish)
  | .never => none

theorem bytesBefore_add (name : String) (i k : Nat) : bytesBefore name (i + k) =
    bytesBefore name i + (String.ofList ((name.toList.drop i).take k)).utf8ByteSize := by
  rw [bytesBefore, List.take_add, String.ofList_append, String.utf8ByteSize_append]
  rfl

/-- The bytes between two places are those of the stretch between them. -/
theorem extract_bytesBefore (name : String) (i j : Nat) :
    name.toByteArray.extract (bytesBefore name i) (bytesBefore name j) =
      (String.ofList (name.toList.toArray.extract i j).toList).toByteArray := by
  rw [Array.toList_extract, List.extract_eq_take_drop]
  rcases Nat.le_total i j with h | h
  · obtain ⟨k, rfl⟩ := Nat.exists_eq_add_of_le h
    rw [bytesBefore_add, Nat.add_sub_cancel_left]
    have hname : name.toByteArray = (String.ofList (name.toList.take i)).toByteArray ++
        ((String.ofList ((name.toList.drop i).take k)).toByteArray ++
          (String.ofList ((name.toList.drop i).drop k)).toByteArray) := by
      rw [← String.toByteArray_append, ← String.toByteArray_append, ← String.ofList_append,
        ← String.ofList_append, List.take_append_drop, List.take_append_drop, String.ofList_toList]
    rw [hname]
    exact (ByteArray.extract_append_size_add (i := 0)).trans (ByteArray.extract_append_eq_left rfl)
  · obtain ⟨k, rfl⟩ := Nat.exists_eq_add_of_le h
    rw [bytesBefore_add, Nat.sub_eq_zero_of_le h, List.take_zero]
    exact ByteArray.extract_eq_empty_iff.mpr (by omega)

end Pattern

/-- What a list of keys gives under one of them. -/
theorem Dictionary.get?_foldl_filterMap {text? : String → Option String} {k : String} :
    ∀ (keys : List String) (d : Dictionary),
      ((keys.filterMap fun k => (text? k).map (k, ·)).foldl (fun d e => d.insert e.1 e.2) d).get? k =
        if k ∈ keys then (text? k).or (d.get? k) else d.get? k
  | [], _ => rfl
  | key :: keys, d => by
    cases hkey : text? key with
    | none =>
      rw [List.filterMap_cons_none (by rw [hkey]; rfl), get?_foldl_filterMap keys d]
      by_cases hk : k = key
      · subst hk
        simp [hkey]
      · simp [hk]
    | some text =>
      rw [List.filterMap_cons_some (by rw [hkey]; rfl), List.foldl_cons, get?_foldl_filterMap keys]
      by_cases hk : k = key
      · subst hk
        simp [hkey, get?_insert_self]
      · simp [hk, get?_insert_of_ne d hk]

theorem Dictionary.get?_ofList_filterMap {text? : String → Option String} {keys : List String}
    {k : String} (hk : k ∈ keys) :
    (ofList (keys.filterMap fun k => (text? k).map (k, ·))).get? k = text? k := by
  refine (get?_foldl_filterMap keys empty).trans ?_
  rw [if_pos hk]
  exact Option.or_none

namespace Pattern

/-- **What a placeholder captures** are the bytes of its range. -/
theorem get?_captures (p : Pattern) (name : String) {placeholder : String}
    (h : placeholder ∈ p.placeholders) :
    ((p.captures name).get? placeholder).map String.toByteArray =
      (p.range? name placeholder).map fun r => name.toByteArray.extract r.1 r.2 := by
  unfold captures range?
  cases p.matcher with
  | never => rfl
  | regex r =>
    cases hfind : r.find? name.toList.toArray with
    | none =>
      simp only [hfind]
      rfl
    | some notes =>
      simp only [hfind, Dictionary.get?_ofList_filterMap h, Regex.named?, Regex.Notes.group?]
      cases hindex : r.names.lookup placeholder with
      | none => rfl
      | some index =>
        cases hstart : notes.lookup (2 * index) with
        | none => simp [hstart]
        | some start =>
          cases hfinish : notes.lookup (2 * index + 1) with
          | none => simp [hstart, hfinish]
          | some finish => simp [hstart, hfinish, extract_bytesBefore]

variable {p : Pattern} {a b : String}

theorem map_toLower_eq (h : eqIgnoreCase a b = true) :
    a.toList.toArray.map Char.toLower = b.toList.toArray.map Char.toLower := by
  rw [List.map_toArray, List.map_toArray]
  exact congrArg List.toArray (eqIgnoreCase_iff.mp h)

/-- **The same places are noted** in names that differ in case only. -/
theorem find?_eq {r : Regex} (hr : r.program.IgnoresCase) (h : eqIgnoreCase a b = true) :
    r.find? a.toList.toArray = r.find? b.toList.toArray := by
  rw [Regex.find?, Regex.find?, ← Regex.Program.find?_toLower hr, map_toLower_eq h,
    Regex.Program.find?_toLower hr]

theorem isMatch_eq (hp : p.IgnoresCase) (h : eqIgnoreCase a b = true) : p.isMatch a = p.isMatch b := by
  unfold isMatch
  cases hmatcher : p.matcher with
  | regex r => exact congrArg Option.isSome (find?_eq (hp r hmatcher) h)
  | never => rfl

theorem utf8Len_map_toLower : ∀ cs : List Char, String.utf8Len (cs.map Char.toLower) = String.utf8Len cs
  | [] => rfl
  | c :: cs => by
    rw [List.map_cons, String.utf8Len, String.utf8Len, utf8Len_map_toLower cs, Text.utf8Size_toLower]

theorem bytesBefore_eq (h : eqIgnoreCase a b = true) : bytesBefore a = bytesBefore b := by
  funext pos
  rw [bytesBefore, bytesBefore, String.utf8ByteSize_ofList, String.utf8ByteSize_ofList,
    ← utf8Len_map_toLower, ← utf8Len_map_toLower (b.toList.take pos), List.map_take, List.map_take]
  exact congrArg (fun cs => String.utf8Len (cs.take pos)) (eqIgnoreCase_iff.mp h)

theorem range?_eq (hp : p.IgnoresCase) (h : eqIgnoreCase a b = true) (placeholder : String) :
    p.range? a placeholder = p.range? b placeholder := by
  unfold range?
  cases hmatcher : p.matcher with
  | regex r => simp only [find?_eq (hp r hmatcher) h, bytesBefore_eq h]
  | never => rfl

end Pattern

/-! ## 4. Sets of patterns -/

namespace PatternSet

variable {s : PatternSet} {a b t u : String}

theorem ofCollection?_eq (hs : ∀ p ∈ s.patterns, p.IgnoresCase) (h : eqIgnoreCase a b = true) :
    s.ofCollection? a = s.ofCollection? b :=
  List.find?_congr fun p hp => Pattern.isMatch_eq (hs p hp) h

theorem ofTable?_eq (h : eqIgnoreCase t u = true) : s.ofTable? t = s.ofTable? u := by
  refine List.find?_congr fun p _ => ?_
  rw [eqIgnoreCase, eqIgnoreCase, eqIgnoreCase_iff.mp h]

theorem accepts_eq (hs : ∀ p ∈ s.patterns, p.IgnoresCase) (ht : eqIgnoreCase t u = true)
    (ha : eqIgnoreCase a b = true) : s.accepts t a = s.accepts u b := by
  unfold accepts
  rw [ofTable?_eq ht]
  cases htable : s.ofTable? u with
  | none => rfl
  | some p => exact Pattern.isMatch_eq (hs p (List.mem_of_find?_eq_some htable)) ha

/-- A collection that no pattern matches keeps its name. -/
theorem canonicalize_eq (hs : ∀ p ∈ s.patterns, p.IgnoresCase) (h : eqIgnoreCase a b = true) :
    s.canonicalize a = s.canonicalize b ∨
      s.ofCollection? a = none ∧ s.ofCollection? b = none ∧
        s.canonicalize a = a ∧ s.canonicalize b = b := by
  have hsame := ofCollection?_eq hs h
  unfold canonicalize
  cases hb : s.ofCollection? b with
  | none => exact .inr ⟨hsame.trans hb, rfl, by rw [hsame, hb], rfl⟩
  | some p => exact .inl (by rw [hsame, hb])

theorem ignoresCase_ofText {text : String}
    (unset : ∀ s ∈ text.toList.splitOn ';', Template.setsSwitches (Text.trim (String.ofList s)) = false) :
    ∀ p ∈ (ofText text).patterns, p.IgnoresCase := by
  intro p hp
  rw [patterns_ofText] at hp
  obtain ⟨s, hs, rfl⟩ := List.mem_map.mp hp
  exact Pattern.ignoresCase_ofTemplate (unset s (List.mem_of_mem_filter hs))

end PatternSet

/-- **Matching ignores the case of ASCII letters** unless a template sets switches, for which it needs
a parenthesis and a question mark in front of the letter of a switch or of a dash.  Two names that
differ in case only match alike, and every placeholder stands for the same bytes of both, which are
what it captures.  So the patterns of a configuration tell apart neither collections nor tables whose
names differ in case only, but a collection that no pattern matches is a table under its own name. -/
theorem matching_ignores_case :
    (∀ template : String, (∀ c ∈ marks, ¬['(', '?', c] <:+: template.toList) →
      Template.setsSwitches template = false) ∧
    (∀ template, Template.setsSwitches template = false →
      (∀ a b, eqIgnoreCase a b = true →
        (Pattern.ofTemplate template).isMatch a = (Pattern.ofTemplate template).isMatch b ∧
        ∀ placeholder, (Pattern.ofTemplate template).range? a placeholder =
          (Pattern.ofTemplate template).range? b placeholder) ∧
      ∀ name, ∀ placeholder ∈ (Pattern.ofTemplate template).placeholders,
        (((Pattern.ofTemplate template).captures name).get? placeholder).map String.toByteArray =
          ((Pattern.ofTemplate template).range? name placeholder).map fun r =>
            name.toByteArray.extract r.1 r.2) ∧
    ∀ text : String,
      (∀ s ∈ text.toList.splitOn ';', Template.setsSwitches (Text.trim (String.ofList s)) = false) →
      (∀ a b, eqIgnoreCase a b = true →
        (PatternSet.ofText text).canonicalize a = (PatternSet.ofText text).canonicalize b ∨
          (PatternSet.ofText text).ofCollection? a = none ∧
          (PatternSet.ofText text).ofCollection? b = none ∧
          (PatternSet.ofText text).canonicalize a = a ∧ (PatternSet.ofText text).canonicalize b = b) ∧
      (∀ t u a b, eqIgnoreCase t u = true → eqIgnoreCase a b = true →
        (PatternSet.ofText text).accepts t a = (PatternSet.ofText text).accepts u b) ∧
      ∀ t u, eqIgnoreCase t u = true →
        (PatternSet.ofText text).isMultiTenant t = (PatternSet.ofText text).isMultiTenant u := by
  refine ⟨fun template plain => Template.setsSwitches_eq_false plain,
    fun template unset => ⟨fun a b h => ?_, fun name placeholder hplaceholder => ?_⟩,
    fun text unset => ?_⟩
  · have hp := Pattern.ignoresCase_ofTemplate unset
    exact ⟨Pattern.isMatch_eq hp h, Pattern.range?_eq hp h⟩
  · exact Pattern.get?_captures _ name hplaceholder
  · have hs := PatternSet.ignoresCase_ofText unset
    exact ⟨fun a b h => PatternSet.canonicalize_eq hs h,
      fun t u a b ht ha => PatternSet.accepts_eq hs ht ha,
      fun t u ht => congrArg Option.isSome (PatternSet.ofTable?_eq ht)⟩

/-- A template with an escaped parenthesis, a negated set, alternatives and a repetition. -/
def tenantTemplate : String := "\\(?i[^k]+(?:x|y)\x7b\x7btenant\x7d\x7d"

/-- What looks like switches is an escaped parenthesis.  The tenant stands for the same bytes of both
names; the patterns of a configuration know a table in upper case. -/
theorem matching_ignores_case_tenant :
    Template.setsSwitches tenantTemplate = false ∧
      eqIgnoreCase "(iÄXt9" "(IÄxT9" = true ∧
      (Pattern.ofTemplate tenantTemplate).isMatch "(IÄxT9" = true ∧
      (Pattern.ofTemplate tenantTemplate).range? "(IÄxT9" "tenant" = some (5, 7) ∧
      (∀ s ∈ "a+; other".toList.splitOn ';',
        Template.setsSwitches (Text.trim (String.ofList s)) = false) ∧
      (PatternSet.ofText "a+; other").isMultiTenant "OTHER" = true := by
  have unset : Template.setsSwitches tenantTemplate = false := by decide +kernel
  have hcase : eqIgnoreCase "(iÄXt9" "(IÄxT9" = true := by decide +kernel
  have hsegments : ∀ s ∈ "a+; other".toList.splitOn ';',
      Template.setsSwitches (Text.trim (String.ofList s)) = false := by
    have plain : ∀ s ∈ "a+; other".toList.splitOn ';', '?' ∉ (Text.trim (String.ofList s)).toList := by
      decide +kernel
    exact fun s hs => matching_ignores_case.1 _ fun c _ h => plain s hs (h.subset (by simp))
  have hmatched : (Pattern.ofTemplate tenantTemplate).isMatch "(iÄXt9" = true ∧
      (Pattern.ofTemplate tenantTemplate).range? "(iÄXt9" "tenant" = some (5, 7) := by
    decide +kernel
  obtain ⟨hmatch, hrange⟩ := (matching_ignores_case.2.1 _ unset).1 _ _ hcase
  obtain ⟨-, -, htable⟩ := matching_ignores_case.2.2 _ hsegments
  refine ⟨unset, hcase, hmatch ▸ hmatched.1, hrange "tenant" ▸ hmatched.2, hsegments, ?_⟩
  rw [htable "OTHER" "other" (by decide +kernel)]
  decide +kernel

end DocTables
