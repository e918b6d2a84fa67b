/-
# Characters that sets without case hold

A set that ignores case is asked for the variants of a character.  For a set of one character that
comes to equality up to case (`contains_folded_single`).  The variants of ASCII letters and digits are
such characters again but for two: the long s and the sign for kelvin (`contains_folded_alphanum`).
-/
import Mathlib
import DocTables.Regex.CharSet

namespace DocTables

namespace Text

/-! ## 1. Where folding leads -/

/-- Folding starts from and leads to code points of characters only. -/
theorem runs_valid : (foldingRuns.all fun r =>
    decide (r.last < 0xD800 ∨ 0xDFFF < r.first) && decide (r.last ≤ 0x10FFFF) &&
      decide ((r.last + r.shift : Int) < 0xD800 ∨ (0xDFFF : Int) < r.first + r.shift) &&
      decide ((r.last + r.shift : Int) ≤ 0x10FFFF)) = true := by decide +kernel

/-- What folding takes to ASCII letters and digits: capitals, the long s and the sign for kelvin. -/
theorem runs_ascii : (foldingRuns.all fun r => decide ((0x7A : Int) < r.first + r.shift) ||
    decide (r.first = 0x41 ∧ r.last = 0x5A) || decide (r.first = 0x17F ∧ r.last = 0x17F) ||
      decide (r.first = 0x212A ∧ r.last = 0x212A)) = true := by decide +kernel

/-- Folding leaves a code point alone, or a run moves it. -/
theorem foldCode_cases (n : Nat) :
    foldCode n = n ∨ ∃ r ∈ foldingRuns, r.moves n = true ∧ foldCode n = r.target n := by
  unfold foldCode
  cases hfind : foldingRuns.find? (·.moves n) with
  | none => exact .inl rfl
  | some r =>
    exact .inr ⟨r, List.mem_of_find?_eq_some hfind, (List.find?_eq_some_iff_append.mp hfind).1, rfl⟩

theorem FoldingRun.le_of_moves {r : FoldingRun} {n : Nat} (h : r.moves n = true) :
    r.first ≤ n ∧ n ≤ r.last := by
  simp only [moves, Bool.and_eq_true, decide_eq_true_eq] at h
  exact h.1

/-- Folding takes characters to characters, and nothing else to them. -/
theorem isValidChar_foldCode_iff (n : Nat) : (foldCode n).isValidChar ↔ n.isValidChar := by
  rcases foldCode_cases n with h | ⟨r, hr, hmoves, h⟩
  · rw [h]
  · have hvalid := List.all_eq_true.mp runs_valid r hr
    have hnonneg := List.all_eq_true.mp runs_nonneg r hr
    simp only [Bool.and_eq_true, decide_eq_true_eq] at hvalid hnonneg
    obtain ⟨hfirst, hlast⟩ := FoldingRun.le_of_moves hmoves
    rw [h, FoldingRun.target]
    simp only [Nat.isValidChar]
    omega

theorem foldChar_eq_iff (c d : Char) : foldChar c = foldChar d ↔ foldCode c.toNat = foldCode d.toNat := by
  have hc : (foldCode c.toNat).isValidChar := (isValidChar_foldCode_iff _).mpr c.valid
  have hd : (foldCode d.toNat).isValidChar := (isValidChar_foldCode_iff _).mpr d.valid
  constructor
  · intro h
    have := congrArg Char.toNat h
    simpa [foldChar, Char.toNat_ofNat, hc, hd] using this
  · intro h
    rw [foldChar, foldChar, h]

/-- The variants of a character are the characters that fold to the same. -/
theorem mem_variants_iff (v c : Char) : v ∈ variants c ↔ sameFold v c = true := by
  rw [variants, List.mem_map, sameFold, beq_iff_eq, foldChar_eq_iff]
  constructor
  · rintro ⟨m, hm, rfl⟩
    have hfold := mem_variantCodes_iff.mp hm
    have hvalid : m.isValidChar := by
      rw [← isValidChar_foldCode_iff, hfold, isValidChar_foldCode_iff]
      exact c.valid
    rwa [Char.toNat_ofNat, if_pos hvalid]
  · intro h
    exact ⟨v.toNat, mem_variantCodes_iff.mpr h, Char.ofNat_toNat v⟩

/-- An ASCII letter or digit, or one of the two other characters that differ from one only in case. -/
def isFoldedAlphanum (c : Char) : Bool := c.isAlphanum || c == '\u017F' || c == '\u212A'

theorem isAlphanum_iff (c : Char) : c.isAlphanum = true ↔ 0x61 ≤ c.toNat ∧ c.toNat ≤ 0x7A ∨
    0x41 ≤ c.toNat ∧ c.toNat ≤ 0x5A ∨ 0x30 ≤ c.toNat ∧ c.toNat ≤ 0x39 := by
  simp only [Char.isAlphanum, Char.isAlpha, Char.isUpper, Char.isLower, Char.isDigit, Bool.or_eq_true,
    Bool.and_eq_true, decide_eq_true_eq, UInt32.le_iff_toNat_le, Char.toNat]
  change (0x41 ≤ c.val.toNat ∧ c.val.toNat ≤ 0x5A ∨ 0x61 ≤ c.val.toNat ∧ c.val.toNat ≤ 0x7A) ∨
    0x30 ≤ c.val.toNat ∧ c.val.toNat ≤ 0x39 ↔ _
  omega

/-- Where folding takes ASCII letters and digits. -/
theorem foldCode_ascii : ∀ n < 128, (0x61 ≤ n ∧ n ≤ 0x7A ∨ 0x41 ≤ n ∧ n ≤ 0x5A ∨ 0x30 ≤ n ∧ n ≤ 0x39) →
    0x61 ≤ foldCode n ∧ foldCode n ≤ 0x7A ∨ 0x30 ≤ foldCode n ∧ foldCode n ≤ 0x39 := by
  decide +kernel

/-- **The variants of ASCII letters and digits.** -/
theorem isFoldedAlphanum_iff (c : Char) :
    isFoldedAlphanum c = true ↔ ∃ v, sameFold v c = true ∧ v.isAlphanum = true := by
  simp only [isFoldedAlphanum, Bool.or_eq_true, beq_iff_eq]
  constructor
  · rintro ((h | rfl) | rfl)
    · exact ⟨c, sameFold_self c, h⟩
    · exact ⟨'s', by decide +kernel, rfl⟩
    · exact ⟨'k', by decide +kernel, rfl⟩
  · rintro ⟨v, hfold, hv⟩
    rw [sameFold, beq_iff_eq, foldChar_eq_iff] at hfold
    rw [isAlphanum_iff] at hv
    have hroot := foldCode_ascii v.toNat (by omega) hv
    rw [hfold] at hroot
    rcases foldCode_cases c.toNat with hc | ⟨r, hr, hmoves, hc⟩
    · rw [hc] at hroot
      exact .inl (.inl ((isAlphanum_iff c).mpr (by omega)))
    · -- a run that moves the character to ASCII is one of three
      have hascii := List.all_eq_true.mp runs_ascii r hr
      simp only [Bool.or_eq_true, decide_eq_true_eq] at hascii
      obtain ⟨hfirst, hlast⟩ := FoldingRun.le_of_moves hmoves
      rw [hc, FoldingRun.target] at hroot
      have toChar {n : Nat} (h : c.toNat = n) : c = Char.ofNat n := by
        rw [← h, Char.ofNat_toNat]
      rcases hascii with ((hfar | hcapital) | hs) | hk
      · omega
      · exact .inl (.inl ((isAlphanum_iff c).mpr (by omega)))
      · exact .inl (.inr (toChar (n := 0x17F) (by omega)))
      · exact .inr (toChar (n := 0x212A) (by omega))

end Text

/-! ## 2. Sets without case -/

namespace Regex.CharSet

theorem contains_folded_iff (s : CharSet) (c : Char) :
    (folded s).contains c = true ↔ ∃ v, Text.sameFold v c = true ∧ s.contains v = true := by
  simp only [contains, List.any_eq_true, Text.mem_variants_iff]

/-- A set of one character without case. -/
theorem contains_folded_single (a c : Char) : (folded (single a)).contains c = Text.sameFold a c := by
  rw [Bool.eq_iff_iff, contains_folded_iff]
  simp only [contains_single, beq_iff_eq, exists_eq_right]

/-- The set of ASCII letters and digits, as it is read from `[a-zA-Z0-9]`. -/
def alphanum : CharSet :=
  unionOf [.ranges [(0x61, 0x7A)], .ranges [(0x41, 0x5A)], .ranges [(0x30, 0x39)]]

theorem contains_alphanum (c : Char) : alphanum.contains c = c.isAlphanum := by
  rw [Bool.eq_iff_iff, Text.isAlphanum_iff]
  simp [alphanum, unionOf, contains, Text.Ranges.has]

/-- The set of ASCII letters and digits without case. -/
theorem contains_folded_alphanum (c : Char) :
    (folded alphanum).contains c = Text.isFoldedAlphanum c := by
  rw [Bool.eq_iff_iff, contains_folded_iff, Text.isFoldedAlphanum_iff]
  simp only [contains_alphanum]

end Regex.CharSet

end DocTables
