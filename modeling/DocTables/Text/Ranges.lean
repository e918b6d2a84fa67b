/-
# Ranges of code points

A class of characters is a list of ranges of code points.  In its normal form the ranges ascend and
none touches the next one; the operations on classes give normal forms.

`has_normal` and `has_union` say that putting ranges together loses no code point and adds none.
-/
import DocTables.Text.Hex

namespace DocTables.Text

/-- Ranges of code points, each with its two ends. -/
abbrev Ranges := List (Nat × Nat)

/-- Whether a code point lies in one of the ranges, which ascend. -/
def inRanges (n : Nat) : Ranges → Bool
  | [] => false
  | (low, high) :: rest => if n < low then false else n ≤ high || inRanges n rest

/-! ## 1. The written form -/

/-- A range of code points from its written form, hexadecimal with a dash between its ends. -/
def rangeOfText (text : List Char) : Nat × Nat :=
  match (text.splitOn '-').map fun digits => (Hex.number? digits).getD 0 with
  | [low, high] => (low, high)
  | [only] => (only, only)
  | _ => (1, 0)

/-- Ranges of code points from their written form, with spaces between them. -/
def rangesOfText (lines : List String) : Ranges :=
  lines.flatMap fun line => (line.toList.splitOn ' ').map rangeOfText

namespace Ranges

/-! ## 2. Operations -/

/-- The greatest code point. -/
def lastCode : Nat := 0x10FFFF

/-- Whether one of the ranges holds a code point. -/
def has (rs : Ranges) (n : Nat) : Bool := rs.any fun r => r.1 ≤ n && n ≤ r.2

/-- A range and those after it, which ascend by their starts, joined where they overlap or touch. -/
def joinFrom (low high : Nat) : Ranges → Ranges
  | [] => [(low, high)]
  | (a, b) :: rest =>
    if a ≤ high + 1 then joinFrom low (max high b) rest else (low, high) :: joinFrom a b rest

/-- Ranges that ascend by their starts, joined where they overlap or touch. -/
def joined : Ranges → Ranges
  | [] => []
  | (a, b) :: rest => joinFrom a b rest

/-- Put a range in front of the first one that does not start before it. -/
def place (r : Nat × Nat) : Ranges → Ranges
  | [] => [r]
  | s :: rest => if r.1 ≤ s.1 then r :: s :: rest else s :: place r rest

/-- Ranges in the order of their starts. -/
def ordered (rs : Ranges) : Ranges := rs.foldr place []

/-- The normal form of ranges. -/
def normal (rs : Ranges) : Ranges := joined (ordered (rs.filter fun r => r.1 ≤ r.2))

/-- The code points of either class. -/
def union (a b : Ranges) : Ranges := normal (a ++ b)

/-- What lies between and behind ranges in normal form, from a code point on. -/
def gapsFrom (start : Nat) : Ranges → Ranges
  | [] => if start ≤ lastCode then [(start, lastCode)] else []
  | (a, b) :: rest =>
    if start < a then (start, a - 1) :: gapsFrom (b + 1) rest else gapsFrom (b + 1) rest

/-- The code points that the ranges do not hold. -/
def outside (rs : Ranges) : Ranges := gapsFrom 0 (normal rs)

/-- The code points of both classes. -/
def inter (a b : Ranges) : Ranges := outside (union (outside a) (outside b))

/-- The code points of the first class that the second does not have. -/
def without (a b : Ranges) : Ranges := inter a (outside b)

/-- The code points that are characters: a part of them is kept for another encoding. -/
def scalars (rs : Ranges) : Ranges := without rs [(0xD800, 0xDFFF)]

/-! ## 3. What the operations do to membership -/

theorem has_cons (r : Nat × Nat) (rs : Ranges) (n : Nat) :
    has (r :: rs) n = ((decide (r.1 ≤ n) && decide (n ≤ r.2)) || has rs n) := rfl

theorem has_eq_true_iff {rs : Ranges} {n : Nat} :
    has rs n = true ↔ ∃ r ∈ rs, r.1 ≤ n ∧ n ≤ r.2 := by
  simp [has]

/-- Joining keeps the code points, if the ranges ascend by their starts. -/
theorem has_joinFrom {low high : Nat} {rs : Ranges} (hlow : low ≤ high)
    (hstart : ∀ r ∈ rs, low ≤ r.1) (hends : ∀ r ∈ rs, r.1 ≤ r.2)
    (hasc : rs.Pairwise fun r s => r.1 ≤ s.1) (n : Nat) :
    has (joinFrom low high rs) n = has ((low, high) :: rs) n := by
  induction rs generalizing low high with
  | nil => rfl
  | cons r rs ih =>
    obtain ⟨a, b⟩ := r
    obtain ⟨ha, hasc⟩ := List.pairwise_cons.1 hasc
    have hab : a ≤ b := hends (a, b) (by simp)
    have hla : low ≤ a := hstart (a, b) (by simp)
    have hends' : ∀ r ∈ rs, r.1 ≤ r.2 := fun r hr => hends r (by simp [hr])
    simp only [joinFrom]
    split
    · rename_i h
      rw [ih (by omega) (fun r hr => Nat.le_trans hla (ha r hr)) hends' hasc]
      rw [Bool.eq_iff_iff]
      simp only [has_cons, Bool.or_eq_true, Bool.and_eq_true, decide_eq_true_eq]
      constructor
      · rintro (h | h)
        · by_cases hn : n ≤ high
          · exact Or.inl ⟨h.1, hn⟩
          · exact Or.inr (Or.inl (by omega))
        · exact Or.inr (Or.inr h)
      · rintro (h | h | h)
        · exact Or.inl (by omega)
        · exact Or.inl (by omega)
        · exact Or.inr h
    · rw [has_cons, ih hab (fun r hr => ha r hr) hends' hasc, has_cons (low, high)]

/-- Ranges that ascend by their starts keep their code points when they are joined. -/
theorem has_joined {rs : Ranges} (hends : ∀ r ∈ rs, r.1 ≤ r.2)
    (hasc : rs.Pairwise fun r s => r.1 ≤ s.1) (n : Nat) : has (joined rs) n = has rs n := by
  cases rs with
  | nil => rfl
  | cons r rs =>
    obtain ⟨ha, hasc⟩ := List.pairwise_cons.1 hasc
    exact has_joinFrom (hends r (by simp)) ha (fun r hr => hends r (by simp [hr])) hasc n

theorem perm_place (r : Nat × Nat) (rs : Ranges) : (place r rs).Perm (r :: rs) := by
  induction rs with
  | nil => exact .refl _
  | cons s rs ih =>
    rw [place]
    split
    · exact .refl _
    · exact (ih.cons s).trans (.swap r s rs)

theorem perm_ordered (rs : Ranges) : (ordered rs).Perm rs := by
  induction rs with
  | nil => exact .refl _
  | cons r rs ih => exact (perm_place r (ordered rs)).trans (ih.cons r)

theorem pairwise_place {rs : Ranges} (h : rs.Pairwise fun r s => r.1 ≤ s.1) (r : Nat × Nat) :
    (place r rs).Pairwise fun r s => r.1 ≤ s.1 := by
  induction rs with
  | nil => simp [place]
  | cons s rs ih =>
    obtain ⟨hs, hrs⟩ := List.pairwise_cons.1 h
    rw [place]
    split
    · rename_i hle
      refine List.pairwise_cons.2 ⟨fun t ht => ?_, h⟩
      rcases List.mem_cons.1 ht with rfl | ht
      · exact hle
      · exact Nat.le_trans hle (hs t ht)
    · rename_i hlt
      refine List.pairwise_cons.2 ⟨fun t ht => ?_, ih hrs⟩
      rcases List.mem_cons.1 ((perm_place r rs).mem_iff.1 ht) with rfl | ht
      · omega
      · exact hs t ht

theorem pairwise_ordered (rs : Ranges) : (ordered rs).Pairwise fun r s => r.1 ≤ s.1 := by
  induction rs with
  | nil => exact List.Pairwise.nil
  | cons r rs ih => exact pairwise_place ih r

/-- The normal form holds the same code points. -/
theorem has_normal (rs : Ranges) (n : Nat) : has (normal rs) n = has rs n := by
  have hmem : ∀ r, r ∈ ordered (rs.filter fun r => r.1 ≤ r.2) ↔ r ∈ rs ∧ r.1 ≤ r.2 := fun r => by
    rw [(perm_ordered _).mem_iff]
    simp
  rw [normal, has_joined (fun r hr => ((hmem r).1 hr).2) (pairwise_ordered _),
    Bool.eq_iff_iff, has_eq_true_iff, has_eq_true_iff]
  constructor
  · rintro ⟨r, hr, h⟩
    exact ⟨r, ((hmem r).1 hr).1, h⟩
  · rintro ⟨r, hr, h⟩
    exact ⟨r, (hmem r).2 ⟨hr, by omega⟩, h⟩

/-- A union holds exactly what one of its parts holds. -/
theorem has_union (a b : Ranges) (n : Nat) : has (union a b) n = (has a n || has b n) := by
  rw [union, has_normal, has, has, has, List.any_append]

end Ranges

end DocTables.Text
