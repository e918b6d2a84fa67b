/-
# Identifiers read back

The text of an identifier has twenty-four characters, each a byte of its own, and each pair of them
is read as the byte that it was written for (`ObjectId.parse_text`).  The identifier of a split is
written in groups of digits, which are put together again (`SplitId.parse?_text`).
-/
import DocTables.Catalog.Split
import DocTables.ObjectId

namespace DocTables

namespace Text

/-- ASCII characters are a byte each. -/
theorem utf8ByteSize_ofList_of_ascii : ∀ {cs : List Char}, (∀ c ∈ cs, c.toNat < 128) →
    (String.ofList cs).utf8ByteSize = cs.length
  | [], _ => rfl
  | c :: cs, h => by
    have hc : c.utf8Size = 1 :=
      Char.utf8Size_eq_one_iff.mpr (Nat.le_of_lt_succ (h c List.mem_cons_self))
    have ih := utf8ByteSize_ofList_of_ascii fun d hd => h d (List.mem_cons_of_mem c hd)
    have hcons : String.ofList (c :: cs) = String.singleton c ++ String.ofList cs := by
      rw [String.singleton_eq_ofList, ← String.ofList_append, List.singleton_append]
    rw [hcons, String.utf8ByteSize_append, String.utf8ByteSize_singleton, hc, ih,
      List.length_cons, Nat.add_comm]

theorem Hex.digit_ascii : ∀ n < 16, (digit n).toNat < 128 := by decide

theorem Hex.digit_ne_plus : ∀ n < 16, digit n ≠ '+' := by decide

theorem Hex.ascii_of_mem_ofByte {b : UInt8} {c : Char} (h : c ∈ ofByte b) : c.toNat < 128 := by
  simp only [ofByte, List.mem_cons, List.not_mem_nil, or_false] at h
  rcases h with rfl | rfl
  · exact digit_ascii _ (by have := b.toNat_lt; omega)
  · exact digit_ascii _ (Nat.mod_lt _ (by decide))

theorem Hex.length_flatMap_ofByte (bytes : List UInt8) :
    (bytes.flatMap ofByte).length = 2 * bytes.length := by
  induction bytes with
  | nil => rfl
  | cons b bytes ih =>
    rw [List.flatMap_cons, List.length_append, ih, List.length_cons]
    simp [ofByte]
    omega

end Text

namespace ObjectId

open Text

/-- A byte is read from its two digits. -/
theorem byte?_digits (b : UInt8) :
    byte? (Hex.digit (b.toNat / 16)) (Hex.digit (b.toNat % 16)) = some b := by
  have h1 : b.toNat / 16 < 16 := by have := b.toNat_lt; omega
  have h2 : b.toNat % 16 < 16 := Nat.mod_lt _ (by decide)
  have hplus : (Hex.digit (b.toNat / 16) == '+') = false := by
    simpa using Hex.digit_ne_plus _ h1
  have hback : UInt8.ofNat (b.toNat / 16 * 16 + b.toNat % 16) = b := by
    rw [Nat.div_add_mod', UInt8.ofNat_toNat]
  rw [byte?, hplus, Hex.digit?_digit _ h1, Hex.digit?_digit _ h2]
  exact congrArg some hback

theorem bytes?_flatMap_ofByte : ∀ bytes : List UInt8,
    bytes? (bytes.flatMap Hex.ofByte) = some bytes
  | [] => rfl
  | b :: bytes => by
    rw [List.flatMap_cons, Hex.ofByte, List.cons_append, List.cons_append, List.nil_append, bytes?,
      byte?_digits, bytes?_flatMap_ofByte bytes]
    rfl

/-- **What is written of an identifier reads back.** -/
theorem parse_text (id : ObjectId) : parse id.text = .ok id := by
  obtain ⟨bytes, hlength⟩ := id
  have hascii : ∀ c ∈ bytes.flatMap Hex.ofByte, c.toNat < 128 := by
    intro c hc
    obtain ⟨b, -, hb⟩ := List.mem_flatMap.mp hc
    exact Hex.ascii_of_mem_ofByte hb
  have hsize : (String.ofList (bytes.flatMap Hex.ofByte)).utf8ByteSize = 24 := by
    rw [utf8ByteSize_ofList_of_ascii hascii, Hex.length_flatMap_ofByte, hlength]
  have hany : (bytes.flatMap Hex.ofByte).any (fun c => c.toNat ≥ 128) = false := by
    refine List.any_eq_false.mpr fun c hc => ?_
    have := hascii c hc
    simpa using this
  unfold parse text Hex.ofBytes
  rw [String.toList_ofList, hsize, hany, bytes?_flatMap_ofByte]
  simp [hlength]

end ObjectId

namespace SplitId

open Text

/-- The number of digits in groups. -/
def total (sizes : List Nat) : Nat := sizes.foldr (· + ·) 0

theorem total_cons (n : Nat) (sizes : List Nat) : total (n :: sizes) = n + total sizes := rfl

/-- Digits that have been put into groups stand in groups. -/
theorem ungrouped?_grouped : ∀ (sizes : List Nat) {digits : List Char}, sizes ≠ [] →
    digits.length = total sizes → ungrouped? sizes (grouped sizes digits) = some digits
  | [], _, h, _ => absurd rfl h
  | [n], digits, _, hlength => by
    obtain rfl : digits.length = n := hlength
    rw [grouped, List.take_length, ungrouped?, beq_self_eq_true, if_pos rfl]
  | n :: m :: rest, digits, _, hlength => by
    rw [total_cons] at hlength
    have hfront : (digits.take n).length = n := List.length_take_of_le (by omega)
    have hback : (digits.drop n).length = total (m :: rest) := by
      rw [List.length_drop]
      omega
    have hlater := ungrouped?_grouped (m :: rest) (List.cons_ne_nil m rest) hback
    rw [grouped, ungrouped?, List.drop_left' hfront, List.take_left' hfront]
    · simp only [hlater, Option.map_some, List.take_append_drop]
    · simp
    · simp

/-- A dash stands between two groups. -/
theorem length_grouped : ∀ (sizes : List Nat) {digits : List Char},
    digits.length = total sizes →
    (grouped sizes digits).length = total sizes + (sizes.length - 1)
  | [], _, _ => rfl
  | [n], digits, hlength => by
    obtain rfl : digits.length = n := hlength
    rw [grouped, List.take_length]
    rfl
  | n :: m :: rest, digits, hlength => by
    rw [total_cons] at hlength
    have hback : (digits.drop n).length = total (m :: rest) := by
      rw [List.length_drop]
      omega
    have hlater := length_grouped (m :: rest) hback
    rw [grouped, List.length_append, List.length_take_of_le (by omega), List.length_cons, hlater]
    · simp only [total_cons, List.length_cons]
      omega
    · simp

/-- **What is written of the identifier of a split reads back.** -/
theorem parse?_text (id : SplitId) : parse? id.text = some id := by
  obtain ⟨bytes, hbytes⟩ := id
  have hlength : (bytes.flatMap Hex.ofByte).length = total groups := by
    rw [Hex.length_flatMap_ofByte, hbytes]
    rfl
  have hdigits : digits? (grouped groups (bytes.flatMap Hex.ofByte)) =
      some (bytes.flatMap Hex.ofByte) := by
    rw [digits?, length_grouped groups hlength]
    exact ungrouped?_grouped groups (by decide) hlength
  rw [parse?, text, String.toList_ofList, hdigits]
  simp [Hex.bytes?_flatMap_ofByte, hbytes]

end SplitId

end DocTables
