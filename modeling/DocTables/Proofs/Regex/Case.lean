/-
# The case of ASCII letters does not count

While case is ignored, every set that a pattern can read holds a letter from `A` to `Z` exactly if it
holds the letter of the other case: a folded set because folding takes both to the same character,
the classes of digits and white space because they have no such letter, the class of word characters
because it has them all (`ignoresCase_shortClass`).  No condition on a place asks for one of them
(`Look.holds_toLower`).

So a program of such sets makes the same steps in a text as in the text in lower case, and notes the
same places (`Program.find?_toLower`).
-/
import Mathlib
import DocTables.Regex
import DocTables.Proofs.Text.Variants

namespace DocTables

/-! ## 1. Letters -/

namespace Text

theorem toLower_ofNat : ∀ n < 0x5B, 0x41 ≤ n → (Char.ofNat n).toLower = Char.ofNat (n + 0x20) := by
  decide

theorem toLower_of_not_capital {c : Char} (h : ¬(0x41 ≤ c.toNat ∧ c.toNat ≤ 0x5A)) :
    c.toLower = c := by
  rw [Char.toLower, dif_neg]
  intro hc
  exact h ⟨UInt32.le_iff_toNat_le.mp hc.1, UInt32.le_iff_toNat_le.mp hc.2⟩

/-- What does not tell `A` to `Z` from `a` to `z` does not tell a character from its lower case. -/
theorem apply_toLower {α : Type} {f : Char → α}
    (h : ∀ n < 0x5B, 0x41 ≤ n → f (Char.ofNat (n + 0x20)) = f (Char.ofNat n)) (c : Char) :
    f c.toLower = f c := by
  by_cases capital : 0x41 ≤ c.toNat ∧ c.toNat ≤ 0x5A
  · have hc := h c.toNat (Nat.lt_succ_of_le capital.2) capital.1
    rwa [← toLower_ofNat c.toNat (Nat.lt_succ_of_le capital.2) capital.1, Char.ofNat_toNat] at hc
  · rw [toLower_of_not_capital capital]

theorem foldChar_toLower (c : Char) : foldChar c.toLower = foldChar c := by
  refine apply_toLower (f := foldChar) ?_ c
  decide +kernel

theorem isWordChar_toLower (c : Char) : isWordChar c.toLower = isWordChar c := by
  refine apply_toLower (f := isWordChar) ?_ c
  decide +kernel

theorem utf8Size_toLower (c : Char) : c.toLower.utf8Size = c.utf8Size := by
  refine apply_toLower (f := Char.utf8Size) ?_ c
  decide

theorem capitals_mem : (0x41, 0x5A) ∈ Category.ranges .uppercaseLetter := by decide +kernel

theorem smalls_mem : (0x61, 0x7A) ∈ Category.ranges .lowercaseLetter := by decide +kernel

/-- Letters are word characters. -/
theorem has_wordRanges {category : Category} (letter : category ∈ Category.letters) {r : Nat × Nat}
    (hr : r ∈ Category.ranges category) {n : Nat} (hn : r.1 ≤ n ∧ n ≤ r.2) :
    wordRanges.has n = true := by
  have hletter : (Category.rangesOf (.letterNumber :: Category.letters)).has n = true := by
    rw [Category.rangesOf, Ranges.has_normal, Ranges.has_eq_true_iff]
    exact ⟨r, List.mem_flatMap.mpr ⟨category, List.mem_cons_of_mem _ letter, hr⟩, hn⟩
  rw [wordRanges, Ranges.has_union, alphabeticRanges, Ranges.has_union, hletter]
  rfl

/-- No decimal digit and no white space is a letter from `A` to `Z` in either case. -/
theorem digits_apart : ((Category.ranges .decimalDigit).all fun r =>
    decide (r.2 < 0x41 ∨ 0x7A < r.1)) = true := by decide +kernel

theorem blanks_apart : (blankRanges.all fun r => decide (r.2 < 0x41 ∨ 0x7A < r.1)) = true := by
  decide

theorem Ranges.has_of_apart {rs : Ranges}
    (apart : (rs.all fun r => decide (r.2 < 0x41 ∨ 0x7A < r.1)) = true) {n : Nat} (low : 0x41 ≤ n)
    (high : n ≤ 0x7A) : rs.has n = false := by
  rw [Bool.eq_false_iff, Ne, has_eq_true_iff]
  rintro ⟨r, hr, hn⟩
  have hapart := of_decide_eq_true (List.all_eq_true.mp apart r hr)
  omega

end Text

namespace Regex

/-! ## 2. Sets and conditions -/

namespace CharSet

/-- The set holds a letter from `A` to `Z` exactly if it holds the letter of the other case. -/
def IgnoresCase (s : CharSet) : Prop := ∀ c : Char, s.contains c.toLower = s.contains c

theorem ignoresCase_folded (s : CharSet) : (folded s).IgnoresCase := by
  intro c
  rw [Bool.eq_iff_iff, contains_folded_iff, contains_folded_iff]
  simp only [Text.sameFold, Text.foldChar_toLower]

theorem IgnoresCase.complement {s : CharSet} (h : s.IgnoresCase) : s.complement.IgnoresCase := by
  intro c
  rw [contains_complement, contains_complement, h c]

/-- Ranges that hold all letters from `A` to `Z` in both cases, or none. -/
theorem ignoresCase_ranges {rs : Text.Ranges} (held : Bool)
    (capitals : ∀ n, 0x41 ≤ n → n ≤ 0x5A → rs.has n = held)
    (smalls : ∀ n, 0x61 ≤ n → n ≤ 0x7A → rs.has n = held) : (ranges rs).IgnoresCase := by
  intro c
  refine Text.apply_toLower (f := (ranges rs).contains) (fun n high low => ?_) c
  have code (m : Nat) (h : m < 0xD800) : (Char.ofNat m).toNat = m := by
    rw [Char.toNat_ofNat, if_pos (.inl h)]
  rw [contains, contains, code _ (by omega), code _ (by omega), smalls _ (by omega) (by omega),
    capitals _ low (by omega)]

theorem ignoresCase_apart {rs : Text.Ranges}
    (apart : (rs.all fun r => decide (r.2 < 0x41 ∨ 0x7A < r.1)) = true) : (ranges rs).IgnoresCase :=
  ignoresCase_ranges false (fun _ low _ => Text.Ranges.has_of_apart apart low (by omega))
    (fun _ _ high => Text.Ranges.has_of_apart apart (by omega) high)

end CharSet

/-- **The classes of a letter** ignore case although they are not folded. -/
theorem ignoresCase_shortClass (letter : Char) : (shortClass .initial letter).IgnoresCase := by
  unfold shortClass
  rw [if_pos (show Flags.initial.unicode = true from rfl)]
  split
  · exact CharSet.ignoresCase_apart Text.digits_apart
  · split
    · exact CharSet.ignoresCase_apart Text.blanks_apart
    · exact CharSet.ignoresCase_ranges true
        (fun n low high => Text.has_wordRanges (by decide) Text.capitals_mem ⟨low, high⟩)
        (fun n low high => Text.has_wordRanges (by decide) Text.smalls_mem ⟨low, high⟩)

theorem ignoresCase_dot {s : CharSet} (h : Reader.dot? .initial = some s) : s.IgnoresCase := by
  cases h
  have newline : (CharSet.ranges [('\n'.toNat, '\n'.toNat)]).IgnoresCase :=
    CharSet.ignoresCase_apart (by decide)
  exact newline.complement

/-- A set that is folded and perhaps negated. -/
theorem ignoresCase_negate {negated : Bool} {s s' : CharSet}
    (h : Flags.initial.negate? negated (Flags.initial.fold s) = some s') : s'.IgnoresCase := by
  unfold Flags.negate? at h
  split at h
  · cases h
    exact CharSet.ignoresCase_folded s
  · cases h
    exact (CharSet.ignoresCase_folded s).complement

theorem isWordChar_toLower (ascii : Bool) (c : Char) :
    isWordChar ascii c.toLower = isWordChar ascii c := by
  unfold isWordChar
  split
  · exact Text.apply_toLower (f := fun c => c.isAlphanum || c == '_') (by decide) c
  · exact Text.isWordChar_toLower c

theorem beq_map_toLower {d : Char} (h : ¬(0x41 ≤ d.toNat ∧ d.toNat ≤ 0x7A)) (c : Option Char) :
    (c.map Char.toLower == some d) = (c == some d) := by
  cases c with
  | none => rfl
  | some c =>
    rw [Option.map_some, Option.some_beq_some, Option.some_beq_some]
    refine Text.apply_toLower (f := (· == d)) (fun n high low => ?_) c
    have other (m : Nat) (hm : m < 0xD800) (hd : d.toNat ≠ m) : (Char.ofNat m == d) = false := by
      rw [beq_eq_false_iff_ne]
      rintro rfl
      rw [Char.toNat_ofNat, if_pos (.inl hm)] at hd
      exact hd rfl
    rw [other _ (by omega) (by omega), other _ (by omega) (by omega)]

/-- No condition asks for the case of a neighbour. -/
theorem Look.holds_toLower (l : Look) (left right : Option Char) :
    l.holds (left.map Char.toLower) (right.map Char.toLower) = l.holds left right := by
  have newline := beq_map_toLower (d := '\n') (by decide)
  have carriage := beq_map_toLower (d := '\r') (by decide)
  cases l with
  | textStart => simp [holds]
  | textFinish => simp [holds]
  | lineStart crlf => cases crlf <;> simp [holds, bne, newline, carriage]
  | lineFinish crlf => cases crlf <;> simp [holds, bne, newline, carriage]
  | edge kind ascii =>
    simp only [holds, Option.any_map]
    congr 1 <;> exact congrArg (fun f => Option.any f _) (funext fun c => isWordChar_toLower ascii c)

theorem Look.holdsAt_toLower (l : Look) (text : Array Char) (pos : Nat) :
    l.holdsAt (text.map Char.toLower) pos = l.holdsAt text pos := by
  have hleft : (if pos = 0 then none else (text.map Char.toLower)[pos - 1]?) =
      (if pos = 0 then none else text[pos - 1]?).map Char.toLower := by
    split
    · rfl
    · exact Array.getElem?_map
  rw [holdsAt, hleft, Array.getElem?_map, Look.holds_toLower]
  rfl

/-! ## 3. Programs -/

/-- All sets of the expression ignore case. -/
def Expr.IgnoresCase : Expr → Prop
  | .empty => True
  | .set s => s.IgnoresCase
  | .look _ => True
  | .group _ e => e.IgnoresCase
  | .concat a b => a.IgnoresCase ∧ b.IgnoresCase
  | .alternate a b => a.IgnoresCase ∧ b.IgnoresCase
  | .repetition _ _ _ e => e.IgnoresCase

/-- The set of an instruction ignores case, if it has one. -/
def Instr.IgnoresCase : Instr → Prop
  | .set s => s.IgnoresCase
  | _ => True

theorem Instr.ignoresCase_branch (greedy : Bool) (inside outside : Nat) :
    (branch greedy inside outside).IgnoresCase := by
  cases greedy <;> trivial

namespace Expr

theorem ignoresCase_copies {code : Nat → List Instr}
    (held : ∀ base, ∀ i ∈ code base, i.IgnoresCase) (size : Nat) :
    ∀ (n base : Nat), ∀ i ∈ copies code size base n, i.IgnoresCase
  | 0, _, i, hi => nomatch hi
  | n + 1, base, i, hi => by
    rcases List.mem_append.mp hi with hi | hi
    · exact held base i hi
    · exact ignoresCase_copies held size n _ i hi

theorem ignoresCase_options {code : Nat → List Instr}
    (held : ∀ base, ∀ i ∈ code base, i.IgnoresCase) (greedy : Bool) (size finish : Nat) :
    ∀ (n base : Nat), ∀ i ∈ options greedy code size finish base n, i.IgnoresCase
  | 0, _, i, hi => nomatch hi
  | n + 1, base, i, hi => by
    rw [options, List.cons_append, List.mem_cons, List.mem_append] at hi
    rcases hi with rfl | hi | hi
    · exact Instr.ignoresCase_branch greedy _ _
    · exact held _ i hi
    · exact ignoresCase_options held greedy size finish n _ i hi

/-- The instructions of an expression have its sets and no others. -/
theorem IgnoresCase.code : ∀ {e : Expr}, e.IgnoresCase → ∀ base, ∀ i ∈ e.code base, i.IgnoresCase
  | .empty, _, _, i, hi => nomatch hi
  | .set s, h, _, i, hi => by
    cases List.mem_singleton.mp hi
    exact h
  | .look l, _, _, i, hi => by
    cases List.mem_singleton.mp hi
    trivial
  | .group none e, h, base, i, hi => IgnoresCase.code (e := e) h base i hi
  | .group (some index) e, h, base, i, hi => by
    simp only [Expr.code, List.cons_append, List.mem_cons, List.mem_append, List.not_mem_nil,
      or_false] at hi
    rcases hi with rfl | hi | rfl
    · trivial
    · exact IgnoresCase.code (e := e) h _ i hi
    · trivial
  | .concat a b, h, base, i, hi => by
    rcases List.mem_append.mp hi with hi | hi
    · exact h.1.code _ i hi
    · exact h.2.code _ i hi
  | .alternate a b, h, base, i, hi => by
    simp only [Expr.code, List.cons_append, List.mem_cons, List.mem_append] at hi
    rcases hi with rfl | hi | rfl | hi
    · trivial
    · exact h.1.code _ i hi
    · trivial
    · exact h.2.code _ i hi
  | .repetition 0 none greedy e, h, base, i, hi => by
    have inside := IgnoresCase.code (e := e) h (base + 1) i
    simp only [Expr.code] at hi
    split at hi <;>
      simp only [List.cons_append, List.mem_cons, List.mem_append, List.not_mem_nil, or_false] at hi
    · rcases hi with rfl | hi | rfl
      · exact Instr.ignoresCase_branch greedy _ _
      · exact inside hi
      · exact Instr.ignoresCase_branch greedy _ _
    · rcases hi with rfl | hi | rfl
      · exact Instr.ignoresCase_branch greedy _ _
      · exact inside hi
      · trivial
  | .repetition (min + 1) none greedy e, h, base, i, hi => by
    simp only [Expr.code, List.mem_append, List.mem_singleton] at hi
    rcases hi with hi | rfl
    · exact ignoresCase_copies (IgnoresCase.code (e := e) h) _ _ _ i hi
    · exact Instr.ignoresCase_branch greedy _ _
  | .repetition min (some max) greedy e, h, base, i, hi => by
    simp only [Expr.code, List.mem_append] at hi
    rcases hi with hi | hi
    · exact ignoresCase_copies (IgnoresCase.code (e := e) h) _ _ _ i hi
    · exact ignoresCase_options (IgnoresCase.code (e := e) h) greedy _ _ _ _ i hi

end Expr

namespace Program

/-- All sets of the program ignore case. -/
def IgnoresCase (p : Program) : Prop := ∀ i ∈ p.code, i.IgnoresCase

theorem ignoresCase_ofExpr {e : Expr} (h : e.IgnoresCase) : (ofExpr e).IgnoresCase := by
  intro i hi
  rw [ofExpr, List.mem_toArray, List.mem_append, List.mem_singleton] at hi
  rcases hi with hi | rfl
  · exact h.code 0 i hi
  · trivial

variable {p : Program}

/-- **One step** is the same in a text as in the text in lower case. -/
theorem step_toLower (h : p.IgnoresCase) (text : Array Char) (t : Thread) :
    p.step (text.map Char.toLower) t = p.step text t := by
  unfold step
  cases hcode : p.code[t.pc]? with
  | none => rfl
  | some i =>
    have hi : i.IgnoresCase := h i (Array.mem_of_getElem? hcode)
    cases i with
    | set s =>
      simp only [Array.getElem?_map]
      cases text[t.pos]? with
      | none => rfl
      | some c => simp only [Option.map_some, hi c]
    | look l => simp only [Look.holdsAt_toLower]
    | save => rfl
    | jump => rfl
    | fork => rfl
    | accept => rfl

/-- **A run** notes the same places in both. -/
theorem run_toLower (h : p.IgnoresCase) (text : Array Char) : ∀ (fuel : Nat) (marks : Marks)
    (stack : List Thread), p.run (text.map Char.toLower) fuel marks stack = p.run text fuel marks stack
  | 0, _, _ => rfl
  | _ + 1, _, [] => rfl
  | fuel + 1, marks, t :: rest => by
    rw [run, run, step_toLower h, run_toLower h text fuel marks rest]
    refine ite_congr rfl (fun _ => rfl) fun _ => ?_
    cases p.step text t with
    | accept => rfl
    | threads next => exact run_toLower h text fuel _ _

theorem find?_toLower (h : p.IgnoresCase) (text : Array Char) :
    p.find? (text.map Char.toLower) = p.find? text := by
  have hmatch : p.matchAt (text.map Char.toLower) = p.matchAt text := by
    funext start
    rw [matchAt, matchAt, steps, steps, Array.size_map, run_toLower h]
  rw [find?, find?, Array.size_map, hmatch]

end Program

end Regex

end DocTables
