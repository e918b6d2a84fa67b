/-
# How decimals are written

`DecimalText.Written` is the grammar of decimal text: an optional sign; digits, with a point among
them or at either end, if there is one; and an optional exponent after a mark, which is a 64-bit
integer in digits.  A text is read as a decimal exactly if it is written so, white space around it
aside (`DecimalText.parse?_eq_some_iff`).
-/
import Mathlib.Data.List.TakeWhile
import DocTables.Coercion.Integral

namespace DocTables.DecimalText

/-! ## 1. Texts cut in two -/

variable {p : Char → Bool} {before after : List Char} {c : Char}

theorem splitAtFirst_of_all (h : ∀ x ∈ before, p x = false) :
    splitAtFirst p before = (before, none) := by
  have hdrop : before.dropWhile (fun c => !p c) = [] := by
    rw [List.dropWhile_eq_nil_iff]
    exact fun x hx => by simp [h x hx]
  rw [splitAtFirst, hdrop]

theorem splitAtFirst_append (h : ∀ x ∈ before, p x = false) (hc : p c = true) :
    splitAtFirst p (before ++ c :: after) = (before, some after) := by
  have hpos : ∀ x ∈ before, (!p x) = true := fun x hx => by simp [h x hx]
  have hdrop : (before ++ c :: after).dropWhile (fun c => !p c) = c :: after := by
    rw [List.dropWhile_append_of_pos hpos]
    simp [hc]
  have htake : (before ++ c :: after).takeWhile (fun c => !p c) = before := by
    rw [List.takeWhile_append_of_pos hpos]
    simp [hc]
  simp only [splitAtFirst, hdrop, htake]

/-- A text has no character of the class, or is cut at the first. -/
theorem splitAtFirst_cases (p : Char → Bool) (cs : List Char) :
    splitAtFirst p cs = (cs, none) ∨
      ∃ before c after, cs = before ++ c :: after ∧ p c = true ∧
        splitAtFirst p cs = (before, some after) := by
  unfold splitAtFirst
  cases hdrop : cs.dropWhile (fun c => !p c) with
  | nil => exact .inl rfl
  | cons c after =>
    have hc : p c = true := by
      simpa [hdrop] using List.head?_dropWhile_not (fun c => !p c) cs
    refine .inr ⟨cs.takeWhile (fun c => !p c), c, after, ?_, hc, rfl⟩
    rw [← hdrop, List.takeWhile_append_dropWhile]

/-! ## 2. The grammar -/

/-- A sign, and whether it is a minus. -/
inductive SignText : Bool → List Char → Prop
  | none : SignText false []
  | plus : SignText false ['+']
  | minus : SignText true ['-']

/-- Digits after a point, or none. -/
inductive FractionText : List Char → List Char → Prop
  | none : FractionText [] []
  | point (digits : List Char) : FractionText digits ('.' :: digits)

/-- An exponent after a mark; zero if there is none. -/
inductive ExponentText : Int → List Char → Prop
  | none : ExponentText 0 []
  | mark {mark : Char} {digits : List Char} {n : Int} (isMark : mark = 'e' ∨ mark = 'E')
      (value : Text.int64? digits = some n) : ExponentText n (mark :: digits)

/-- What stands after the sign of a decimal. -/
inductive Unsigned : DecimalText → List Char → Prop
  | intro {d : DecimalText} {fraction exponent : List Char} (point : FractionText d.fraction fraction)
      (mark : ExponentText d.exponent exponent) (digits : ∀ c ∈ d.digits, Text.isDigit c = true)
      (nonempty : d.digits ≠ []) : Unsigned d (d.whole ++ fraction ++ exponent)

/-- The text of a decimal. -/
inductive Written : DecimalText → List Char → Prop
  | intro {d : DecimalText} {front cs : List Char} (sign : SignText d.negative front)
      (unsigned : Unsigned d cs) : Written d (front ++ cs)

theorem Written.isDigit {d : DecimalText} {cs : List Char} (h : Written d cs) :
    ∀ c ∈ d.digits, Text.isDigit c = true := by
  obtain ⟨-, ⟨-, -, digits, -⟩⟩ := h
  exact digits

/-! ## 3. Reading -/

theorem isMark_iff : isMark c = true ↔ c = 'e' ∨ c = 'E' := by simp [isMark]

theorem isMark_of_isDigit (h : Text.isDigit c = true) : isMark c = false := by
  cases hmark : isMark c with
  | false => rfl
  | true => rcases isMark_iff.mp hmark with rfl | rfl <;> exact absurd h (by decide)

theorem ne_point_of_isDigit (h : Text.isDigit c = true) : (c == '.') = false := by
  refine beq_false_of_ne ?_
  rintro rfl
  exact absurd h (by decide)

/-- The digits with their point are split at the point. -/
theorem splitAtFirst_point {whole digits fraction : List Char} (point : FractionText digits fraction)
    (hwhole : ∀ c ∈ whole, Text.isDigit c = true) :
    ∃ mark, splitAtFirst (· == '.') (whole ++ fraction) = (whole, mark) ∧ mark.getD [] = digits := by
  have hnone : ∀ c ∈ whole, (c == '.') = false := fun c hc => ne_point_of_isDigit (hwhole c hc)
  cases point with
  | none => exact ⟨none, by rw [List.append_nil, splitAtFirst_of_all hnone], rfl⟩
  | point => exact ⟨some digits, splitAtFirst_append hnone rfl, rfl⟩

/-- There is no mark of an exponent among digits and points. -/
theorem isMark_of_fraction {d : DecimalText} {fraction : List Char}
    (point : FractionText d.fraction fraction) (digits : ∀ c ∈ d.digits, Text.isDigit c = true) :
    ∀ c ∈ d.whole ++ fraction, isMark c = false := by
  obtain ⟨negative, whole, digitsAfter, exponent⟩ := d
  intro c hc
  rcases List.mem_append.mp hc with hwhole | hfraction
  · exact isMark_of_isDigit (digits c (List.mem_append_left _ hwhole))
  · cases point with
    | none => cases hfraction
    | point =>
      rcases List.mem_cons.mp hfraction with rfl | hdigit
      · rfl
      · exact isMark_of_isDigit (digits c (List.mem_append_right _ hdigit))

theorem unsigned?_of_unsigned {d : DecimalText} {cs : List Char} (h : Unsigned d cs) :
    unsigned? d.negative cs = some d := by
  obtain ⟨point, mark, digits, nonempty⟩ := h
  have hmarks := isMark_of_fraction point digits
  obtain ⟨pointMark, hsplit, hfraction⟩ :=
    splitAtFirst_point point fun c hc => digits c (List.mem_append_left _ hc)
  have hempty : ¬(d.whole.isEmpty && d.fraction.isEmpty) = true := by
    simpa [DecimalText.digits] using nonempty
  have hall : (d.whole ++ d.fraction).all Text.isDigit = true := List.all_eq_true.mpr digits
  obtain ⟨negative, whole, fraction, exponent⟩ := d
  cases mark with
  | none =>
    simp only [List.append_nil]
    simp only [unsigned?, splitAtFirst_of_all hmarks, exponent?, hsplit, hfraction, bind,
      Option.bind, if_neg hempty, if_pos hall]
    rfl
  | mark isMark value =>
    simp only [unsigned?, splitAtFirst_append hmarks (isMark_iff.mpr isMark), exponent?,
      value, hsplit, hfraction, bind, Option.bind, if_neg hempty, if_pos hall]

theorem fractionText_of_splitAtFirst {mantissa whole : List Char} {point : Option (List Char)}
    (h : splitAtFirst (· == '.') mantissa = (whole, point)) :
    ∃ fraction, FractionText (point.getD []) fraction ∧ mantissa = whole ++ fraction := by
  rcases splitAtFirst_cases (· == '.') mantissa with hnone | ⟨before, c, after, rfl, hc, hsome⟩
  · obtain ⟨rfl, rfl⟩ := Prod.mk.inj (hnone.symm.trans h)
    exact ⟨[], .none, (List.append_nil _).symm⟩
  · obtain ⟨rfl, rfl⟩ := Prod.mk.inj (hsome.symm.trans h)
    obtain rfl : c = '.' := by simpa using hc
    exact ⟨_, .point after, rfl⟩

theorem exponentText_of_splitAtFirst {cs mantissa : List Char} {mark : Option (List Char)} {n : Int}
    (h : splitAtFirst isMark cs = (mantissa, mark))
    (value : exponent? mark = some n) :
    ∃ exponent, ExponentText n exponent ∧ cs = mantissa ++ exponent := by
  rcases splitAtFirst_cases isMark cs with hnone | ⟨before, c, after, rfl, hc, hsome⟩
  · obtain ⟨rfl, rfl⟩ := Prod.mk.inj (hnone.symm.trans h)
    obtain rfl := Option.some.inj value
    exact ⟨[], .none, (List.append_nil _).symm⟩
  · obtain ⟨rfl, rfl⟩ := Prod.mk.inj (hsome.symm.trans h)
    exact ⟨_, .mark (isMark_iff.mp hc) value, rfl⟩

theorem unsigned_of_unsigned? {negative : Bool} {cs : List Char} {d : DecimalText}
    (h : unsigned? negative cs = some d) : d.negative = negative ∧ Unsigned d cs := by
  unfold unsigned? at h
  rcases hmark : splitAtFirst isMark cs with ⟨mantissa, mark⟩
  rcases hpoint : splitAtFirst (· == '.') mantissa with ⟨whole, point⟩
  obtain ⟨fraction, hfraction, rfl⟩ := fractionText_of_splitAtFirst hpoint
  simp only [hmark, hpoint] at h
  obtain ⟨n, hvalue, h⟩ := Option.bind_eq_some_iff.mp h
  obtain ⟨exponent, hexponent, rfl⟩ := exponentText_of_splitAtFirst hmark hvalue
  split at h
  · cases h
  · rename_i hempty
    split at h
    · rename_i hall
      obtain rfl := Option.some.inj h
      exact ⟨rfl, .intro hfraction hexponent (List.all_eq_true.mp hall)
        (by simpa [DecimalText.digits] using hempty)⟩
    · cases h

/-- What stands after a sign does not begin with one. -/
theorem Unsigned.exists_cons {d : DecimalText} {cs : List Char} (h : Unsigned d cs) :
    ∃ c rest, cs = c :: rest ∧ c ≠ '-' ∧ c ≠ '+' := by
  obtain ⟨point, mark, digits, nonempty⟩ := h
  have hdigit {c : Char} (h : Text.isDigit c = true) : c ≠ '-' ∧ c ≠ '+' :=
    ⟨fun hc => by subst hc; exact absurd h (by decide),
      fun hc => by subst hc; exact absurd h (by decide)⟩
  obtain ⟨negative, whole, fraction, exponent⟩ := d
  cases whole with
  | cons c rest => exact ⟨c, _, rfl, hdigit (digits c List.mem_cons_self)⟩
  | nil =>
    cases point with
    | none => exact absurd rfl nonempty
    | point => exact ⟨'.', _, rfl, by decide⟩

/-- **Decimal text is what is written so.** -/
theorem parse?_eq_some_iff {s : String} {d : DecimalText} :
    parse? s = some d ↔ Written d (Text.trimChars s.toList) := by
  unfold parse?
  constructor
  · intro h
    split at h
    · cases h
    · rename_i rest htext
      obtain ⟨hnegative, hunsigned⟩ := unsigned_of_unsigned? h
      rw [htext]
      exact @Written.intro d ['-'] rest (hnegative ▸ .minus) hunsigned
    · rename_i rest htext
      obtain ⟨hnegative, hunsigned⟩ := unsigned_of_unsigned? h
      rw [htext]
      exact @Written.intro d ['+'] rest (hnegative ▸ .plus) hunsigned
    · obtain ⟨hnegative, hunsigned⟩ := unsigned_of_unsigned? h
      exact @Written.intro d [] _ (hnegative ▸ .none) hunsigned
  · generalize Text.trimChars s.toList = text
    rintro ⟨sign, unsigned⟩
    have hread := unsigned?_of_unsigned unsigned
    generalize hnegative : d.negative = negative at sign hread
    cases sign with
    | minus => exact hread
    | plus => exact hread
    | none =>
      obtain ⟨c, rest, rfl, hminus, hplus⟩ := unsigned.exists_cons
      simpa [hminus, hplus] using hread

end DocTables.DecimalText
