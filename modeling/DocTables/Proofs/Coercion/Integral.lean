/-
# The whole part is what truncation leaves

The whole part of a decimal is found by moving the point among its digits.  What comes of it is the
rational number that the decimal stands for, cut off toward zero (`DecimalText.integral?_eq`),
unless that does not fit in 64 bits; the point has to stay in 64 bits, too, unless all digits are
zero.
-/
import Mathlib.Algebra.Order.Field.Power
import Mathlib.Data.Rat.Floor
import Mathlib.Tactic.FieldSimp
import Mathlib.Tactic.Positivity
import Mathlib.Tactic.Linarith
import Mathlib.Tactic.GCongr
import Mathlib.Tactic.NormNum
import DocTables.Coercion
import DocTables.Proofs.Coercion.DecimalText

namespace DocTables

/-! ## 1. Truncation -/

/-- The integer that is left when the fraction of a number is cut off. -/
def truncate (q : ℚ) : ℤ := if 0 ≤ q then ⌊q⌋ else ⌈q⌉

theorem truncate_of_nonneg {q : ℚ} (h : 0 ≤ q) : truncate q = ⌊q⌋ := if_pos h

theorem truncate_neg (q : ℚ) : truncate (-q) = -truncate q := by
  rcases lt_trichotomy q 0 with h | rfl | h
  · rw [truncate_of_nonneg (by linarith), truncate, if_neg (not_le.mpr h), Int.floor_neg]
  · simp [truncate]
  · rw [truncate_of_nonneg h.le, truncate, if_neg (by linarith), Int.ceil_neg]

@[simp] theorem truncate_intCast (n : ℤ) : truncate n = n := by
  unfold truncate
  split <;> simp

/-! ## 2. Digits -/

namespace Text

theorem fitsInt64_iff {n : ℤ} : fitsInt64 n = true ↔ -2 ^ 63 ≤ n ∧ n < 2 ^ 63 := by
  unfold fitsInt64 minInt64 maxInt64
  rw [Bool.and_eq_true, decide_eq_true_eq, decide_eq_true_eq]
  norm_num
  omega

theorem isDigit_iff {c : Char} : isDigit c = true ↔ '0'.toNat ≤ c.toNat ∧ c.toNat ≤ '9'.toNat := by
  unfold isDigit
  rw [Bool.and_eq_true, decide_eq_true_eq, decide_eq_true_eq]
  rfl

theorem digit_lt {c : Char} (h : isDigit c = true) : c.toNat - '0'.toNat < 10 := by
  have hle : c.toNat ≤ 57 := (isDigit_iff.mp h).2
  have h0 : '0'.toNat = 48 := rfl
  omega

/-- Digits stand for a number with no more digits. -/
theorem ofDigitChars_lt : ∀ {cs : List Char}, (∀ c ∈ cs, isDigit c = true) →
    Nat.ofDigitChars 10 cs 0 < 10 ^ cs.length
  | [], _ => by simp
  | c :: cs, h => by
    have hc := digit_lt (h c List.mem_cons_self)
    have hcs := ofDigitChars_lt fun x hx => h x (List.mem_cons_of_mem c hx)
    rw [Nat.ofDigitChars_cons, Nat.ofDigitChars_eq_ofDigitChars_zero, List.length_cons, pow_succ]
    nlinarith

/-- Zeros in front are of no account. -/
theorem ofDigitChars_dropWhile (cs : List Char) :
    Nat.ofDigitChars 10 (cs.dropWhile (· == '0')) 0 = Nat.ofDigitChars 10 cs 0 := by
  induction cs with
  | nil => rfl
  | cons c cs ih =>
    by_cases hc : c = '0'
    · subst hc
      rw [Nat.ofDigitChars_cons]
      simpa using ih
    · rw [List.dropWhile_cons, if_neg (by simpa using hc)]

/-- Digits that do not begin with a zero stand for a number with as many digits. -/
theorem le_ofDigitChars {c : Char} {cs : List Char} (hdigit : isDigit c = true) (hzero : c ≠ '0') :
    10 ^ cs.length ≤ Nat.ofDigitChars 10 (c :: cs) 0 := by
  have hpos : 0 < c.toNat - '0'.toNat := by
    have hne : c.toNat ≠ '0'.toNat := fun h => hzero (Char.toNat_inj.mp h)
    have hle := (isDigit_iff.mp hdigit).1
    omega
  rw [Nat.ofDigitChars_cons, Nat.ofDigitChars_eq_ofDigitChars_zero]
  exact (Nat.le_mul_of_pos_right _ (by omega)).trans (Nat.le_add_right _ _)

end Text

/-! ## 3. The number of a decimal -/

namespace DecimalText

/-- The number that a decimal stands for. -/
def value (d : DecimalText) : ℚ :=
  (if d.negative then -1 else 1) * Nat.ofDigitChars 10 d.digits 0 *
    10 ^ (d.exponent - d.fraction.length)

/-- The number without its sign, from its significant digits and the place of the point. -/
def size (d : DecimalText) : ℚ :=
  Nat.ofDigitChars 10 d.significant 0 * 10 ^ (d.point - d.significant.length)

theorem value_eq (d : DecimalText) : d.value = if d.negative then -d.size else d.size := by
  have hexponent : d.point - d.significant.length = d.exponent - d.fraction.length := by
    rw [point, digits, List.length_append]
    push_cast
    ring
  rw [size, hexponent, significant, Text.ofDigitChars_dropWhile, value]
  split <;> ring

theorem size_nonneg (d : DecimalText) : 0 ≤ d.size := by
  unfold size
  positivity

theorem truncate_value (d : DecimalText) :
    truncate d.value = if d.negative then -⌊d.size⌋ else ⌊d.size⌋ := by
  rw [value_eq]
  split
  · rw [truncate_neg, truncate_of_nonneg d.size_nonneg]
  · rw [truncate_of_nonneg d.size_nonneg]

variable {d : DecimalText} (digits : ∀ c ∈ d.digits, Text.isDigit c = true)

include digits

theorem isDigit_of_mem_significant : ∀ c ∈ d.significant, Text.isDigit c = true :=
  fun c hc => digits c ((List.dropWhile_sublist _).mem hc)

theorem size_lt : d.size < 10 ^ d.point := by
  have hlt : (Nat.ofDigitChars 10 d.significant 0 : ℚ) < 10 ^ d.significant.length := by
    exact_mod_cast Text.ofDigitChars_lt (isDigit_of_mem_significant digits)
  calc d.size
      < 10 ^ d.significant.length * 10 ^ (d.point - d.significant.length) := by
        unfold size
        gcongr
    _ = 10 ^ d.point := by
        rw [← zpow_natCast, ← zpow_add₀ (by norm_num)]
        congr 1
        ring

theorem le_size (h : d.significant ≠ []) : 10 ^ (d.point - 1) ≤ d.size := by
  obtain ⟨c, cs, hcs⟩ := List.exists_cons_of_ne_nil h
  have hzero : c ≠ '0' := by
    have hhead := List.head?_dropWhile_not (· == '0') d.digits
    rw [← significant, hcs] at hhead
    simpa using hhead
  have hle : (10 ^ cs.length : ℚ) ≤ Nat.ofDigitChars 10 d.significant 0 := by
    rw [hcs]
    exact_mod_cast Text.le_ofDigitChars
      (isDigit_of_mem_significant digits c (hcs ▸ List.mem_cons_self)) hzero
  calc (10 : ℚ) ^ (d.point - 1)
      = 10 ^ cs.length * 10 ^ (d.point - d.significant.length) := by
        rw [← zpow_natCast, ← zpow_add₀ (by norm_num), hcs, List.length_cons]
        congr 1
        push_cast
        ring
    _ ≤ d.size := by
        unfold size
        gcongr

theorem floor_size_of_nonpos (h : d.point ≤ 0) : ⌊d.size⌋ = 0 := by
  rw [Int.floor_eq_zero_iff]
  refine ⟨d.size_nonneg, (size_lt digits).trans_le ?_⟩
  exact zpow_le_one_of_nonpos₀ (by norm_num) h

/-- With as many digits as stand before the point, the others are the fraction. -/
theorem floor_size_of_le {n : ℕ} (hn : d.point = n) (h : n ≤ d.significant.length) :
    ⌊d.size⌋ = Nat.ofDigitChars 10 (d.significant.take n) 0 := by
  have hsplit : Nat.ofDigitChars 10 d.significant 0 =
      10 ^ (d.significant.length - n) * Nat.ofDigitChars 10 (d.significant.take n) 0 +
        Nat.ofDigitChars 10 (d.significant.drop n) 0 := by
    conv_lhs => rw [← List.take_append_drop n d.significant]
    rw [Nat.ofDigitChars_append, Nat.ofDigitChars_eq_ofDigitChars_zero, List.length_drop]
  have hrest : Nat.ofDigitChars 10 (d.significant.drop n) 0 < 10 ^ (d.significant.length - n) := by
    rw [← List.length_drop]
    exact Text.ofDigitChars_lt fun c hc =>
      isDigit_of_mem_significant digits c (List.mem_of_mem_drop hc)
  have hsize : d.size = Nat.ofDigitChars 10 d.significant 0 / 10 ^ (d.significant.length - n) := by
    have hexponent : d.point - d.significant.length = -((d.significant.length - n : ℕ) : ℤ) := by
      omega
    rw [size, hexponent, zpow_neg, zpow_natCast, div_eq_mul_inv]
  have hpos : (0 : ℚ) < 10 ^ (d.significant.length - n) := by positivity
  rw [hsize, Int.floor_eq_iff, le_div_iff₀ hpos, div_lt_iff₀ hpos]
  rw [Int.cast_natCast]
  constructor
  · have hle : Nat.ofDigitChars 10 (d.significant.take n) 0 * 10 ^ (d.significant.length - n) ≤
        Nat.ofDigitChars 10 d.significant 0 := by
      rw [hsplit, mul_comm]
      exact Nat.le_add_right _ _
    exact_mod_cast hle
  · have hlt : Nat.ofDigitChars 10 d.significant 0 <
        (Nat.ofDigitChars 10 (d.significant.take n) 0 + 1) * 10 ^ (d.significant.length - n) := by
      rw [hsplit, Nat.add_mul, mul_comm]
      omega
    exact_mod_cast hlt

omit digits in
/-- With fewer digits, zeros stand before the point, and there is no fraction. -/
theorem floor_size_of_lt {n : ℕ} (hn : d.point = n) (h : d.significant.length < n) :
    ⌊d.size⌋ =
      Nat.ofDigitChars 10 (d.significant ++ List.replicate (n - d.significant.length) '0') 0 := by
  have hsize : d.size =
      ((10 ^ (n - d.significant.length) * Nat.ofDigitChars 10 d.significant 0 : ℕ) : ℚ) := by
    have hexponent : d.point - d.significant.length = ((n - d.significant.length : ℕ) : ℤ) := by
      omega
    rw [size, hexponent, zpow_natCast]
    push_cast
    ring
  rw [hsize, Int.floor_natCast, Nat.ofDigitChars_append, Nat.ofDigitChars_replicate_zero]

theorem floor_size (h : 0 < d.point) : ⌊d.size⌋ = d.magnitude := by
  obtain ⟨n, hn⟩ := Int.eq_ofNat_of_zero_le h.le
  have htoNat : d.point.toNat = n := by omega
  rw [magnitude, integralDigits, htoNat, List.length_take]
  rcases Nat.lt_or_ge d.significant.length n with hlt | hle
  · rw [floor_size_of_lt hn hlt, List.take_of_length_le hlt.le, Nat.min_eq_right hlt.le]
  · rw [floor_size_of_le digits hn hle, Nat.min_eq_left hle, Nat.sub_self, List.replicate_zero,
      List.append_nil]

omit digits in
/-- The whole part has as many digits as stand before the point. -/
theorem length_integralDigits (d : DecimalText) : d.integralDigits.length = d.point.toNat := by
  rw [integralDigits, List.length_append, List.length_replicate, List.length_take]
  omega

theorem isDigit_of_mem_integralDigits : ∀ c ∈ d.integralDigits, Text.isDigit c = true := by
  intro c hc
  rcases List.mem_append.mp hc with hkept | hfilled
  · exact isDigit_of_mem_significant digits c (List.mem_of_mem_take hkept)
  · obtain ⟨-, rfl⟩ := List.mem_replicate.mp hfilled
    rfl

theorem magnitude_lt : d.magnitude < 10 ^ d.point.toNat := by
  rw [magnitude, ← length_integralDigits]
  exact Text.ofDigitChars_lt (isDigit_of_mem_integralDigits digits)

/-! ## 4. The whole part -/

omit digits in
theorem floor_size_of_zero (h : d.significant = []) : ⌊d.size⌋ = 0 := by
  simp [size, h]

/-- **The whole part is what truncation leaves**, if that fits in 64 bits, and if the point stays in
64 bits or does not matter. -/
theorem integral?_eq : d.integral? =
    if d.significant = [] ∨ Text.fitsInt64 d.point = true then
      (some (truncate d.value)).filter Text.fitsInt64
    else none := by
  have hzero (h : ⌊d.size⌋ = 0) : (some (truncate d.value)).filter Text.fitsInt64 = some 0 := by
    have htruncate : truncate d.value = 0 := by
      rw [truncate_value, h]
      split <;> rfl
    rw [htruncate]
    rfl
  unfold integral?
  by_cases hsignificant : d.significant = []
  · have hcounts : d.significant = [] ∨ Text.fitsInt64 d.point = true := .inl hsignificant
    rw [if_pos (by simpa using hsignificant), if_pos hcounts,
      hzero (floor_size_of_zero hsignificant)]
  rw [if_neg (by simpa using hsignificant)]
  by_cases hfits : Text.fitsInt64 d.point = true
  swap
  · have hcounts : ¬(d.significant = [] ∨ Text.fitsInt64 d.point = true) :=
      not_or.mpr ⟨hsignificant, hfits⟩
    rw [if_pos (by simpa using hfits), if_neg hcounts]
  have hcounts : d.significant = [] ∨ Text.fitsInt64 d.point = true := .inr hfits
  rw [if_neg (by simp [hfits]), if_pos hcounts]
  by_cases hnonpos : d.point ≤ 0
  · rw [if_pos hnonpos, hzero (floor_size_of_nonpos digits hnonpos)]
  rw [if_neg hnonpos]
  by_cases hlarge : d.point > 19
  · -- Twenty digits before the point are too many.
    have hle : (10 : ℤ) ^ 19 ≤ ⌊d.size⌋ := by
      refine Int.le_floor.mpr (le_trans ?_ (le_size digits hsignificant))
      calc ((10 ^ 19 : ℤ) : ℚ) = 10 ^ (19 : ℤ) := by norm_num
        _ ≤ 10 ^ (d.point - 1) := zpow_le_zpow_right₀ (by norm_num) (by omega)
    have hfits : ¬Text.fitsInt64 (truncate d.value) = true := by
      rw [truncate_value, Text.fitsInt64_iff]
      split <;> omega
    rw [if_pos hlarge, Option.filter_some, if_neg hfits]
  · rw [if_neg hlarge, truncate_value, floor_size digits (by omega)]

omit digits in
/-- Where the point is, from the text: the leading zeros do not count. -/
theorem point_eq (d : DecimalText) :
    d.point = d.whole.length - (d.digits.takeWhile (· == '0')).length + d.exponent := by
  have hlength : (d.digits.takeWhile (· == '0')).length + d.significant.length = d.digits.length := by
    rw [significant, ← List.length_append, List.takeWhile_append_dropWhile]
  unfold point
  omega

omit digits in
theorem significant_eq_nil_iff (d : DecimalText) :
    d.significant = [] ↔ ∀ c ∈ d.digits, c = '0' := by
  simp [significant, List.dropWhile_eq_nil_iff]

end DecimalText

/-! ## 5. Decimal text -/

namespace Text

theorem isBlank_of_isDigit {c : Char} (h : isDigit c = true) : isBlank c = false := by
  have hc : 48 ≤ c.toNat ∧ c.toNat ≤ 57 := isDigit_iff.mp h
  simp [isBlank, blankRanges]
  omega

/-- Text without white space stays as it is. -/
theorem trimChars_of_notBlank {cs : List Char} (h : ∀ c ∈ cs, isBlank c = false) :
    trimChars cs = cs := by
  have hkeep {cs : List Char} (h : ∀ c ∈ cs, isBlank c = false) : cs.dropWhile isBlank = cs := by
    cases cs with
    | nil => rfl
    | cons c cs => rw [List.dropWhile_cons, if_neg (by simp [h c List.mem_cons_self])]
  rw [trimChars, hkeep h, hkeep (by simpa using h), List.reverse_reverse]

theorem isDigit_of_mem_toDigits {n : ℕ} {c : Char} (h : c ∈ Nat.toDigits 10 n) :
    isDigit c = true :=
  Nat.isDigit_of_mem_toDigits (by decide) (by decide) h

end Text

/-- An integer as a decimal. -/
def DecimalText.ofInt (n : ℤ) : DecimalText :=
  ⟨decide (n < 0), Nat.toDigits 10 n.natAbs, [], 0⟩

theorem DecimalText.written_ofInt (n : ℤ) :
    (ofInt n).Written (Text.trimChars (Text.ofInt n).toList) := by
  have hdigits : ∀ c ∈ Nat.toDigits 10 n.natAbs, Text.isBlank c = false := fun c hc =>
    Text.isBlank_of_isDigit (Text.isDigit_of_mem_toDigits hc)
  have hunsigned : (ofInt n).Unsigned (Nat.toDigits 10 n.natAbs) := by
    have h : (ofInt n).digits = Nat.toDigits 10 n.natAbs := List.append_nil _
    have := @Unsigned.intro (ofInt n) [] [] .none .none
      (fun c hc => Text.isDigit_of_mem_toDigits (h ▸ hc)) (h ▸ Nat.toDigits_ne_nil)
    simpa [ofInt] using this
  by_cases hneg : n < 0
  · have htext : (Text.ofInt n).toList = '-' :: Nat.toDigits 10 n.natAbs := by
      simp [Text.ofInt, hneg, Nat.toList_repr]
    rw [htext, Text.trimChars_of_notBlank (List.forall_mem_cons.mpr ⟨rfl, hdigits⟩)]
    have hsign : SignText (ofInt n).negative ['-'] := by
      simpa [ofInt, hneg] using SignText.minus
    exact .intro hsign hunsigned
  · have htext : (Text.ofInt n).toList = Nat.toDigits 10 n.natAbs := by
      simp [Text.ofInt, hneg, Nat.toList_repr]
    rw [htext, Text.trimChars_of_notBlank hdigits]
    have hsign : SignText (ofInt n).negative [] := by
      simpa [ofInt, hneg] using SignText.none
    exact .intro hsign hunsigned

theorem DecimalText.value_ofInt (n : ℤ) : (ofInt n).value = n := by
  have hdigits : (ofInt n).digits = Nat.toDigits 10 n.natAbs := List.append_nil _
  have hpower : (10 : ℚ) ^ ((ofInt n).exponent - (ofInt n).fraction.length) = 1 := by simp [ofInt]
  rw [value, hdigits, Nat.ofDigitChars_ten_toDigits, hpower, mul_one]
  have hsize : (n.natAbs : ℚ) = ((|n| : ℤ) : ℚ) := by
    rw [← Int.natCast_natAbs, Int.cast_natCast]
  by_cases hneg : n < 0
  · have hsign : (ofInt n).negative = true := decide_eq_true hneg
    rw [hsign, if_pos rfl, hsize, abs_of_neg hneg]
    push_cast
    ring
  · have hsign : (ofInt n).negative = false := decide_eq_false hneg
    rw [hsign, if_neg Bool.false_ne_true, one_mul, hsize, abs_of_nonneg (not_lt.mp hneg)]

/-- The point of an integer stays where it is. -/
theorem DecimalText.fitsInt64_point_ofInt {n : ℤ} (h : Text.fitsInt64 n = true) :
    Text.fitsInt64 (ofInt n).point = true := by
  obtain ⟨hmin, hmax⟩ := Text.fitsInt64_iff.mp h
  have hlength : (Nat.toDigits 10 n.natAbs).length ≤ 19 :=
    (Nat.length_toDigits_le_iff (by decide) (by decide)).mpr (by omega)
  have hzeros := (List.takeWhile_sublist (· == '0') (l := (ofInt n).digits)).length_le
  have hdigits : (ofInt n).digits = Nat.toDigits 10 n.natAbs := List.append_nil _
  have hwhole : (ofInt n).whole = Nat.toDigits 10 n.natAbs := rfl
  have hexponent : (ofInt n).exponent = 0 := rfl
  rw [Text.fitsInt64_iff, point_eq, hwhole, hexponent]
  rw [hdigits] at hzeros ⊢
  omega

theorem integralPart?_eq_some_iff {t : String} {i : ℤ} :
    integralPart? t = some i ↔ ∃ d : DecimalText, d.Written (Text.trimChars t.toList) ∧
      (d.significant = [] ∨ Text.fitsInt64 d.point = true) ∧ truncate d.value = i ∧
        Text.fitsInt64 i = true := by
  unfold integralPart?
  rw [Option.bind_eq_bind, Option.bind_eq_some_iff]
  refine exists_congr fun d => ?_
  rw [DecimalText.parse?_eq_some_iff]
  refine and_congr_right fun written => ?_
  rw [DecimalText.integral?_eq written.isDigit]
  by_cases hcounts : d.significant = [] ∨ Text.fitsInt64 d.point = true
  · rw [if_pos hcounts, Option.filter_eq_some_iff]
    simp [hcounts]
  · rw [if_neg hcounts]
    simp [hcounts]

/-- An integer is the whole part of its text. -/
theorem integralPart?_ofInt {n : ℤ} (h : Text.fitsInt64 n = true) :
    integralPart? (Text.ofInt n) = some n := by
  refine integralPart?_eq_some_iff.mpr ⟨.ofInt n, DecimalText.written_ofInt n, ?_, ?_, h⟩
  · exact .inr (DecimalText.fitsInt64_point_ofInt h)
  · rw [DecimalText.value_ofInt, truncate_intCast]

theorem coerce_int64_string (n : Int64) : coerce .int64 (coerce .string (.int64 n)) = .int64 n := by
  have hfits : Text.fitsInt64 n.toInt = true :=
    Text.fitsInt64_iff.mpr ⟨n.le_toInt, n.toInt_lt⟩
  change Value.toInt64 (.string (Text.ofInt n.toInt)) = _
  simp only [Value.toInt64, integralPart?_ofInt hfits, Option.map_some, Int64.ofInt_toInt]

namespace DecimalText

/-- No number leaves its range on the way to the whole part: the zeros in front are digits of the
text, the place of the point without the exponent lies among the digits, and a whole part with at
most 19 digits fits in 128 bits with either sign. -/
def InRange (d : DecimalText) : Prop :=
  d.significant.length ≤ d.digits.length ∧
    -(d.fraction.length : ℤ) ≤ d.point - d.exponent ∧ d.point - d.exponent ≤ d.whole.length ∧
      (0 < d.point → d.point ≤ 19 → d.magnitude < 2 ^ 127)

theorem Written.inRange {d : DecimalText} {cs : List Char} (written : d.Written cs) : d.InRange := by
  have hsignificant := (List.dropWhile_sublist (· == '0') (l := d.digits)).length_le
  have hlength : d.digits.length = d.whole.length + d.fraction.length := List.length_append
  have hpoint : d.point - d.exponent =
      d.whole.length - ((d.digits.length : ℤ) - d.significant.length) := by
    unfold point
    ring
  rw [← significant] at hsignificant
  refine ⟨hsignificant, by omega, by omega, fun hpos hle => ?_⟩
  calc d.magnitude
      < 10 ^ d.point.toNat := magnitude_lt written.isDigit
    _ ≤ 10 ^ 19 := Nat.pow_le_pow_right (by decide) (by omega)
    _ < 2 ^ 127 := by norm_num

end DecimalText

/-- **The whole part of a text** is what truncation leaves of the number that is written there, if
it fits in 64 bits, and if the point does, too, or all digits are zero; there is none otherwise.
So a 64-bit integer comes back from its text. -/
theorem whole_part_truncates (t : String) (i : ℤ) (n : Int64) :
    (integralPart? t = some i ↔
      ∃ d : DecimalText, d.Written (Text.trimChars t.toList) ∧ truncate d.value = i ∧
        (-2 ^ 63 ≤ i ∧ i < 2 ^ 63) ∧
          ((∀ c ∈ d.digits, c = '0') ∨
            Text.fitsInt64 (d.whole.length - (d.digits.takeWhile (· == '0')).length + d.exponent))) ∧
      (∀ d, DecimalText.parse? t = some d → d.InRange) ∧
        coerce .int64 (coerce .string (.int64 n)) = .int64 n := by
  refine ⟨?_, fun d hd => (DecimalText.parse?_eq_some_iff.mp hd).inRange, coerce_int64_string n⟩
  rw [integralPart?_eq_some_iff]
  refine exists_congr fun d => ?_
  rw [DecimalText.significant_eq_nil_iff, DecimalText.point_eq, Text.fitsInt64_iff (n := i)]
  tauto

end DocTables
