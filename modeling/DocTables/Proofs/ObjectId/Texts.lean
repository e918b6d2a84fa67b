/-
# The texts of identifiers

A text is read as an identifier exactly if it has twenty-four characters, which make pairs of two
hexadecimal digits or of a plus sign and a digit (`Paired`).  The identifier is then written with
the digits in lower case and a zero for each plus sign (`parse_eq_ok_iff`).

A text without a plus sign is so read exactly if it has twenty-four characters, all of them
hexadecimal digits, and what is written is the text in lower case (`parse_digits`).  A sign takes the
place of a digit in `parse_signed`: the byte of a pair is read as a number, and numbers may have a
sign.
-/
import DocTables.Proofs.ObjectId

namespace DocTables

namespace Text.Hex

/-! ## 1. Digits -/

/-- A hexadecimal digit of either case. -/
def IsDigit (c : Char) : Prop :=
  ('0' ≤ c ∧ c ≤ '9') ∨ ('a' ≤ c ∧ c ≤ 'f') ∨ ('A' ≤ c ∧ c ≤ 'F')

instance : DecidablePred IsDigit := fun _ => inferInstanceAs (Decidable (_ ∨ _ ∨ _))

theorem isSome_digit?_iff {c : Char} : (digit? c).isSome ↔ IsDigit c := by
  unfold digit? IsDigit
  by_cases hdecimal : '0' ≤ c ∧ c ≤ '9'
  · simp [hdecimal]
  · by_cases hlower : 'a' ≤ c ∧ c ≤ 'f'
    · simp [hdecimal, hlower]
    · by_cases hupper : 'A' ≤ c ∧ c ≤ 'F'
      · simp [hdecimal, hlower, hupper]
      · simp [hdecimal, hlower, hupper]

/-- A text is checked for being of digits by reading them. -/
theorem isDigit_of_all {cs : List Char} (h : (cs.all fun c => (digit? c).isSome) = true) :
    ∀ c ∈ cs, IsDigit c :=
  fun c hc => isSome_digit?_iff.mp (List.all_eq_true.mp h c hc)

theorem IsDigit.ascii {c : Char} (h : IsDigit c) : c.toNat < 128 := by
  have hbound {d : Char} (hd : d.toNat < 128) (hle : c ≤ d) : c.toNat < 128 :=
    Nat.lt_of_le_of_lt hle hd
  rcases h with h | h | h
  · exact hbound (by decide) h.2
  · exact hbound (by decide) h.2
  · exact hbound (by decide) h.2

theorem not_isDigit_plus : ¬IsDigit '+' := by decide

/-- What holds of the first 128 characters, one by one, holds of all ASCII characters. -/
theorem forall_ascii {P : Char → Prop} (h : ∀ code < 128, P (Char.ofNat code)) {c : Char}
    (ascii : c.toNat < 128) : P c := by
  have hc := h c.toNat ascii
  rwa [Char.ofNat_toNat] at hc

/-- A digit stands for a number below sixteen, which is written as the digit in lower case. -/
theorem digit_of_digit? {c : Char} {n : Nat} (h : digit? c = some n) :
    n < 16 ∧ digit n = c.toLower := by
  have hdigits : ∀ code < 128, ∀ n ∈ digit? (Char.ofNat code),
      n < 16 ∧ digit n = (Char.ofNat code).toLower := by decide
  have hdigit : IsDigit c := isSome_digit?_iff.mp (by simp [h])
  have hall : ∀ n ∈ digit? c, n < 16 ∧ digit n = c.toLower :=
    forall_ascii (P := fun c => ∀ n ∈ digit? c, n < 16 ∧ digit n = c.toLower) hdigits hdigit.ascii
  exact hall n h

/-- The byte of two numbers below sixteen is written as their digits. -/
theorem ofByte_ofNat {h l : Nat} (hh : h < 16) (hl : l < 16) :
    ofByte (UInt8.ofNat (h * 16 + l)) = [digit h, digit l] := by
  have hvalue : (UInt8.ofNat (h * 16 + l)).toNat = h * 16 + l := by
    rw [UInt8.toNat_ofNat']
    omega
  have hhigh : (h * 16 + l) / 16 = h := by omega
  have hlow : (h * 16 + l) % 16 = l := by omega
  rw [ofByte, hvalue, hhigh, hlow]

end Text.Hex

namespace ObjectId

open Text Text.Hex

/-! ## 2. Pairs -/

/-- Pairs of characters that stand for bytes: two digits, or a plus sign and a digit. -/
inductive Paired : List Char → Prop
  | nil : Paired []
  | digits {high low : Char} {rest : List Char} (first : IsDigit high) (second : IsDigit low)
      (others : Paired rest) : Paired (high :: low :: rest)
  | signed {low : Char} {rest : List Char} (second : IsDigit low) (others : Paired rest) :
      Paired ('+' :: low :: rest)

/-- The digit that stands for a character in what is written: the same in lower case, and zero for a
plus sign. -/
def writtenFor (c : Char) : Char := if c = '+' then '0' else c.toLower

theorem writtenFor_of_isDigit {c : Char} (h : IsDigit c) : writtenFor c = c.toLower := by
  have hne : c ≠ '+' := fun e => not_isDigit_plus (e ▸ h)
  rw [writtenFor, if_neg hne]

theorem Paired.isDigit_or_plus {cs : List Char} (paired : Paired cs) :
    ∀ c ∈ cs, IsDigit c ∨ c = '+' := by
  induction paired with
  | nil => simp
  | digits first second _ ih =>
    exact List.forall_mem_cons.mpr ⟨.inl first, List.forall_mem_cons.mpr ⟨.inl second, ih⟩⟩
  | signed second _ ih =>
    exact List.forall_mem_cons.mpr ⟨.inr rfl, List.forall_mem_cons.mpr ⟨.inl second, ih⟩⟩

theorem Paired.ascii {cs : List Char} (paired : Paired cs) : ∀ c ∈ cs, c.toNat < 128 := by
  intro c hc
  rcases paired.isDigit_or_plus c hc with hdigit | rfl
  · exact hdigit.ascii
  · decide

/-- Without a plus sign, pairs are digits. -/
theorem Paired.isDigit {cs : List Char} (paired : Paired cs) (hplus : '+' ∉ cs) :
    ∀ c ∈ cs, IsDigit c := by
  intro c hc
  rcases paired.isDigit_or_plus c hc with hdigit | rfl
  · exact hdigit
  · exact absurd hc hplus

theorem paired_of_isDigit : ∀ (n : Nat) {cs : List Char}, cs.length = 2 * n →
    (∀ c ∈ cs, IsDigit c) → Paired cs
  | 0, cs, hlength, _ => by
    obtain rfl : cs = [] := List.eq_nil_of_length_eq_zero hlength
    exact .nil
  | n + 1, [], hlength, _ => absurd hlength (by simp)
  | n + 1, [_], hlength, _ => absurd hlength (by simp; omega)
  | n + 1, high :: low :: rest, hlength, h => by
    have hrest : rest.length = 2 * n := by
      simp only [List.length_cons] at hlength
      omega
    have hothers : ∀ c ∈ rest, IsDigit c := fun c hc => h c (by simp [hc])
    exact .digits (h high (by simp)) (h low (by simp)) (paired_of_isDigit n hrest hothers)

/-- The number that the first character of a pair stands for; that of a plus sign is zero. -/
def first? (c : Char) : Option Nat := if c = '+' then some 0 else digit? c

theorem isSome_first?_iff {c : Char} : (first? c).isSome ↔ IsDigit c ∨ c = '+' := by
  unfold first?
  by_cases h : c = '+'
  · simp [h]
  · simp [h, isSome_digit?_iff]

theorem digit_of_first? {c : Char} {n : Nat} (h : first? c = some n) :
    n < 16 ∧ digit n = writtenFor c := by
  unfold first? writtenFor at *
  by_cases hc : c = '+'
  · rw [if_pos hc] at h ⊢
    obtain rfl := Option.some.inj h
    decide
  · rw [if_neg hc] at h ⊢
    exact digit_of_digit? h

theorem byte?_eq (high low : Char) :
    byte? high low = (first? high).bind fun h => (digit? low).map fun l => UInt8.ofNat (h * 16 + l) := by
  unfold byte? first?
  by_cases h : high = '+'
  · simp [h]
  · rw [if_neg (by simpa using h), if_neg h]
    cases digit? high <;> cases digit? low <;> rfl

/-- A byte that is read from a pair is written as it. -/
theorem ofByte_of_byte? {high low : Char} {b : UInt8} (h : byte? high low = some b) :
    (IsDigit high ∨ high = '+') ∧ IsDigit low ∧ ofByte b = [writtenFor high, writtenFor low] := by
  rw [byte?_eq] at h
  obtain ⟨m, hhigh, h⟩ := Option.bind_eq_some_iff.mp h
  obtain ⟨n, hlow, rfl⟩ := Option.map_eq_some_iff.mp h
  have hdigit : IsDigit low := isSome_digit?_iff.mp (by simp [hlow])
  obtain ⟨hm, hm'⟩ := digit_of_first? hhigh
  obtain ⟨hn, hn'⟩ := digit_of_digit? hlow
  refine ⟨isSome_first?_iff.mp (by simp [hhigh]), hdigit, ?_⟩
  rw [ofByte_ofNat hm hn, hm', hn', writtenFor_of_isDigit hdigit]

theorem exists_byte? {high low : Char} (hhigh : IsDigit high ∨ high = '+') (hlow : IsDigit low) :
    ∃ b, byte? high low = some b := by
  obtain ⟨m, hm⟩ := Option.isSome_iff_exists.mp (isSome_first?_iff.mpr hhigh)
  obtain ⟨n, hn⟩ := Option.isSome_iff_exists.mp (isSome_digit?_iff.mpr hlow)
  rw [byte?_eq, hm, hn]
  exact ⟨_, rfl⟩

/-- Bytes that are read from pairs are written as them. -/
theorem flatMap_of_bytes? : ∀ {cs : List Char} {bytes : List UInt8}, cs.length % 2 = 0 →
    bytes? cs = some bytes → Paired cs ∧ bytes.flatMap ofByte = cs.map writtenFor
  | [], bytes, _, h => by
    obtain rfl := Option.some.inj h
    exact ⟨.nil, rfl⟩
  | [_], _, hlength, _ => absurd hlength (by simp)
  | high :: low :: rest, bytes, hlength, h => by
    rw [bytes?] at h
    obtain ⟨b, hbyte, h⟩ := Option.bind_eq_some_iff.mp h
    obtain ⟨tail, htail, h⟩ := Option.bind_eq_some_iff.mp h
    obtain rfl := Option.some.inj h
    have hrest : rest.length % 2 = 0 := by
      simp only [List.length_cons] at hlength
      omega
    obtain ⟨paired, hwritten⟩ := flatMap_of_bytes? hrest htail
    obtain ⟨hhigh, hlow, hpair⟩ := ofByte_of_byte? hbyte
    refine ⟨?_, ?_⟩
    · rcases hhigh with hhigh | rfl
      · exact .digits hhigh hlow paired
      · exact .signed hlow paired
    · rw [List.flatMap_cons, hpair, hwritten]
      rfl

theorem exists_bytes? {cs : List Char} (paired : Paired cs) : ∃ bytes, bytes? cs = some bytes := by
  induction paired with
  | nil => exact ⟨[], rfl⟩
  | digits first second _ ih =>
    obtain ⟨tail, htail⟩ := ih
    obtain ⟨b, hbyte⟩ := exists_byte? (.inl first) second
    rw [bytes?, hbyte, htail]
    exact ⟨_, rfl⟩
  | signed second _ ih =>
    obtain ⟨tail, htail⟩ := ih
    obtain ⟨b, hbyte⟩ := exists_byte? (.inr rfl) second
    rw [bytes?, hbyte, htail]
    exact ⟨_, rfl⟩

/-! ## 3. Texts -/

theorem toList_text (id : ObjectId) : id.text.toList = id.bytes.flatMap ofByte := String.toList_ofList

/-- An identifier is known from its text. -/
theorem text_injective {id id' : ObjectId} (h : id.text = id'.text) : id = id' := by
  have hback : parse id.text = .ok id' := h ▸ parse_text id'
  exact Except.ok.inj ((parse_text id).symm.trans hback)

theorem utf8ByteSize_of_ascii {s : String} (ascii : ∀ c ∈ s.toList, c.toNat < 128) :
    s.utf8ByteSize = s.toList.length := by
  have h := utf8ByteSize_ofList_of_ascii ascii
  rwa [String.ofList_toList] at h

/-- What the first check lets pass. -/
theorem checked_iff {s : String} :
    ¬(s.utf8ByteSize ≠ 24 ∨ s.toList.any (fun c => c.toNat ≥ 128) = true) ↔
      s.toList.length = 24 ∧ ∀ c ∈ s.toList, c.toNat < 128 := by
  simp only [not_or, Decidable.not_not, List.any_eq_true, decide_eq_true_eq, not_exists, not_and,
    ge_iff_le, Nat.not_le]
  exact and_congr_left fun ascii => by rw [utf8ByteSize_of_ascii ascii]

/-- What is read as an identifier is pairs, and written as them. -/
theorem paired_of_parse {s : String} {id : ObjectId} (h : parse s = .ok id) :
    s.toList.length = 24 ∧ Paired s.toList ∧ id.text.toList = s.toList.map writtenFor := by
  unfold parse at h
  split at h
  · cases h
  · rename_i hchecked
    obtain ⟨hlength, -⟩ := checked_iff.mp hchecked
    cases hbytes : bytes? s.toList with
    | none => simp [hbytes] at h
    | some bytes =>
      simp only [hbytes] at h
      split at h
      · obtain rfl := Except.ok.inj h
        obtain ⟨paired, hwritten⟩ := flatMap_of_bytes? (by rw [hlength]) hbytes
        exact ⟨hlength, paired, (toList_text _).trans hwritten⟩
      · cases h

/-- Twelve pairs are read as an identifier. -/
theorem parse_of_paired {s : String} (hlength : s.toList.length = 24) (paired : Paired s.toList) :
    ∃ id, parse s = .ok id := by
  obtain ⟨bytes, hbytes⟩ := exists_bytes? paired
  obtain ⟨-, hwritten⟩ := flatMap_of_bytes? (by rw [hlength]) hbytes
  have hsize : bytes.length = 12 := by
    have h := congrArg List.length hwritten
    rw [length_flatMap_ofByte, List.length_map, hlength] at h
    omega
  unfold parse
  rw [if_neg (checked_iff.mpr ⟨hlength, paired.ascii⟩), hbytes]
  exact ⟨⟨bytes, hsize⟩, by simp [hsize]⟩

/-- **The texts that are read as an identifier** are twelve pairs that are written as it is. -/
theorem parse_eq_ok_iff {s : String} {id : ObjectId} :
    parse s = .ok id ↔
      s.toList.length = 24 ∧ Paired s.toList ∧ id.text.toList = s.toList.map writtenFor := by
  refine ⟨paired_of_parse, ?_⟩
  rintro ⟨hlength, paired, hwritten⟩
  obtain ⟨id', hid'⟩ := parse_of_paired hlength paired
  obtain ⟨-, -, hwritten'⟩ := paired_of_parse hid'
  have htext : id'.text = id.text := String.toList_inj.mp (hwritten'.trans hwritten.symm)
  rw [hid', text_injective htext]

theorem exists_parse_iff {s : String} :
    (∃ id, parse s = .ok id) ↔ s.toList.length = 24 ∧ Paired s.toList := by
  constructor
  · rintro ⟨id, h⟩
    obtain ⟨hlength, paired, -⟩ := paired_of_parse h
    exact ⟨hlength, paired⟩
  · rintro ⟨hlength, paired⟩
    exact parse_of_paired hlength paired

/-- A text of ASCII characters can be cut after each of them. -/
theorem isValid_of_ascii {s : String} (ascii : ∀ c ∈ s.toList, c.toNat < 128) {i : Nat}
    (h : i ≤ s.toList.length) : String.Pos.Raw.IsValid s ⟨i⟩ := by
  have hfront : ∀ c ∈ s.toList.take i, c.toNat < 128 := fun c hc => ascii c (List.mem_of_mem_take hc)
  refine String.Pos.Raw.isValid_iff_exists_append.mpr
    ⟨String.ofList (s.toList.take i), String.ofList (s.toList.drop i), ?_, ?_⟩
  · rw [← String.ofList_append, List.take_append_drop, String.ofList_toList]
  · refine String.Pos.Raw.ext ?_
    rw [String.byteIdx_rawEndPos, utf8ByteSize_ofList_of_ascii hfront, List.length_take_of_le h]

/-- **Identifiers and their texts.**

* A text is read as an identifier exactly if it is twelve pairs of characters that stand for bytes,
  and the identifier is written with the digits in lower case and a zero for a plus sign.
* Among texts without a plus sign, these are the texts of twenty-four hexadecimal digits, and the
  identifier is written as the text in lower case.
* What is written of an identifier reads back.
* A text that passes the first check can be cut at the ends of all pairs. -/
theorem parse_digits (s : String) :
    ((∃ id, parse s = .ok id) ↔ s.toList.length = 24 ∧ Paired s.toList) ∧
    (∀ id, parse s = .ok id → id.text.toList = s.toList.map writtenFor) ∧
    ('+' ∉ s.toList →
      ((∃ id, parse s = .ok id) ↔ s.toList.length = 24 ∧ ∀ c ∈ s.toList, IsDigit c) ∧
        ∀ id, parse s = .ok id → id.text = s.toLower) ∧
    (∀ id : ObjectId, parse id.text = .ok id) ∧
    (s.utf8ByteSize = 24 → (∀ c ∈ s.toList, c.toNat < 128) →
      ∀ i ≤ 12, String.Pos.Raw.IsValid s ⟨2 * i⟩) := by
  refine ⟨exists_parse_iff, fun id h => (paired_of_parse h).2.2, fun hplus => ⟨?_, ?_⟩,
    parse_text, ?_⟩
  · rw [exists_parse_iff]
    refine and_congr_right fun hlength => ?_
    exact ⟨fun paired => paired.isDigit hplus, paired_of_isDigit 12 hlength⟩
  · intro id h
    obtain ⟨-, paired, hwritten⟩ := paired_of_parse h
    have hlower : s.toList.map writtenFor = s.toList.map Char.toLower :=
      List.map_congr_left fun c hc => writtenFor_of_isDigit (paired.isDigit hplus c hc)
    refine String.toList_inj.mp ?_
    rw [hwritten, hlower]
    exact String.toList_map.symm
  · intro hsize ascii i hi
    have hlength : s.toList.length = 24 := (utf8ByteSize_of_ascii ascii).symm.trans hsize
    exact isValid_of_ascii ascii (by omega)

/-- Digits of both cases. -/
theorem parse_digits_mixedCase :
    let s := "5F1d7f8E9a0B1c2D3e4F5a6B"
    '+' ∉ s.toList ∧ ∃ id, parse s = .ok id ∧ id.text = "5f1d7f8e9a0b1c2d3e4f5a6b" := by
  intro s
  have hplus : '+' ∉ s.toList := by decide
  obtain ⟨-, -, h, -, -⟩ := parse_digits s
  obtain ⟨hread, hwritten⟩ := h hplus
  obtain ⟨id, hid⟩ := hread.mpr ⟨by decide, isDigit_of_all (by decide)⟩
  refine ⟨hplus, id, hid, (hwritten id hid).trans (String.toList_inj.mp ?_)⟩
  exact String.toList_map.trans (by decide)

/-- **A plus sign takes the place of a digit.**  A text with a sign is read, and as the same
identifier as the text with a zero there; so not all texts that are read are digits. -/
theorem parse_signed :
    (∃ id, parse "+F1d7f8E9a0B1c2D3e4F5a6B" = .ok id ∧ parse "0F1d7f8E9a0B1c2D3e4F5a6B" = .ok id) ∧
    ¬∀ s : String, (∃ id, parse s = .ok id) ↔ s.toList.length = 24 ∧ ∀ c ∈ s.toList, IsDigit c := by
  have hsigned : Paired "+F1d7f8E9a0B1c2D3e4F5a6B".toList :=
    .signed (by decide) (paired_of_isDigit 11 (by decide) (isDigit_of_all (by decide)))
  have hzero : Paired "0F1d7f8E9a0B1c2D3e4F5a6B".toList :=
    paired_of_isDigit 12 (by decide) (isDigit_of_all (by decide))
  obtain ⟨id, hid⟩ := parse_of_paired (by decide) hsigned
  refine ⟨⟨id, hid, parse_eq_ok_iff.mpr ⟨by decide, hzero, ?_⟩⟩, fun h => ?_⟩
  · rw [(paired_of_parse hid).2.2]
    decide
  · have hdigits := ((h _).mp ⟨id, hid⟩).2
    exact not_isDigit_plus (hdigits '+' (by decide))

end ObjectId

end DocTables
