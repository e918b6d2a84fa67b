/-
# The lines of a file of text

A file is cut into lines byte by byte, before anything is known of its encoding.  For a file of text
this comes to the same as cutting the text (`lines_utf8`): in the UTF-8 form of a text the bytes of
a line feed and of a carriage return stand for these characters and for nothing else
(`ascii_mem_utf8EncodeChar_iff`).  So every line of such a file is text again (`fromUTF8?_utf8`).
-/
import DocTables.Store.JsonLines

namespace DocTables

namespace Text

/-- The UTF-8 form of characters. -/
def utf8 (cs : List Char) : List UInt8 := cs.flatMap String.utf8EncodeChar

/-- A line that a line feed ends, without the carriage return before it. -/
def dropReturn (line : List Char) : List Char :=
  if line.getLast? = some '\r' then line.dropLast else line

/-- The lines of a text: what line feeds end, and what follows the last of them unless it is empty.
-/
def lines (cs : List Char) : List (List Char) :=
  let parts := cs.splitOn '\n'
  parts.dropLast.map dropReturn ++ parts.getLast?.toList.filter fun line => !line.isEmpty

/-! ## 1. Bytes of a text -/

@[simp] theorem utf8_nil : utf8 [] = [] := rfl

@[simp] theorem utf8_cons (c : Char) (cs : List Char) :
    utf8 (c :: cs) = String.utf8EncodeChar c ++ utf8 cs := List.flatMap_cons

@[simp] theorem utf8_append (cs ds : List Char) : utf8 (cs ++ ds) = utf8 cs ++ utf8 ds :=
  List.flatMap_append

theorem utf8_toList (s : String) : s.toUTF8.data.toList = utf8 s.toList := by
  have h : s.toUTF8 = s.toList.utf8Encode := String.utf8Encode_toList.symm
  rw [h, List.utf8Encode, List.data_toByteArray]
  rfl

/-- The UTF-8 form of characters is text. -/
theorem fromUTF8?_utf8 (cs : List Char) :
    String.fromUTF8? ⟨(utf8 cs).toArray⟩ = some (String.ofList cs) := by
  have h : (⟨(utf8 cs).toArray⟩ : ByteArray) = (String.ofList cs).toByteArray := by
    rw [String.toByteArray_ofList, List.utf8Encode]
    exact ByteArray.ext List.data_toByteArray.symm
  rw [h, String.fromUTF8?, dif_pos (String.ofList cs).isValidUTF8]
  rfl

theorem utf8EncodeChar_ascii {c : Char} (h : c.toNat < 128) :
    String.utf8EncodeChar c = [UInt8.ofNat c.toNat] := by
  have hle : c.val.toNat ≤ 127 := Nat.le_of_lt_succ h
  rw [String.utf8EncodeChar]
  simp only [hle, if_true]
  rfl

/-- All bytes of a longer form are 128 or more. -/
theorem le_of_mem_utf8EncodeChar {c : Char} (h : 128 ≤ c.toNat) {b : UInt8}
    (hb : b ∈ String.utf8EncodeChar c) : 128 ≤ b.toNat := by
  have hlarge {v : Nat} (hv : v < 128) : 128 ≤ (UInt8.ofNat (v + 128)).toNat := by
    rw [UInt8.toNat_ofNat']
    omega
  have hgt : ¬c.val.toNat ≤ 127 := Nat.not_le.mpr h
  rw [String.utf8EncodeChar] at hb
  simp only [hgt, if_false] at hb
  generalize c.val.toNat = v at hb
  have hnext (k : Nat) : 128 ≤ (UInt8.ofNat (v / k % 64 + 128)).toNat := hlarge (by omega)
  have hlast : 128 ≤ (UInt8.ofNat (v % 64 + 128)).toNat := hlarge (by omega)
  split at hb
  · simp only [List.mem_cons, List.not_mem_nil, or_false] at hb
    rcases hb with rfl | rfl
    · exact hlarge (by omega : v / 64 % 32 + 64 < 128)
    · exact hlast
  · split at hb
    · simp only [List.mem_cons, List.not_mem_nil, or_false] at hb
      rcases hb with rfl | rfl | rfl
      · exact hlarge (by omega : v / 4096 % 16 + 96 < 128)
      · exact hnext 64
      · exact hlast
    · simp only [List.mem_cons, List.not_mem_nil, or_false] at hb
      rcases hb with rfl | rfl | rfl | rfl
      · exact hlarge (by omega : v / 262144 % 8 + 112 < 128)
      · exact hnext 4096
      · exact hnext 64
      · exact hlast

/-- A byte below 128 stands for the character of its number and for nothing else. -/
theorem ascii_mem_utf8EncodeChar_iff {b : UInt8} (h : b.toNat < 128) (c : Char) :
    b ∈ String.utf8EncodeChar c ↔ c.toNat = b.toNat := by
  by_cases hc : c.toNat < 128
  · rw [utf8EncodeChar_ascii hc, List.mem_singleton, ← UInt8.toNat_inj, UInt8.toNat_ofNat']
    omega
  · refine iff_of_false (fun hb => ?_) (by omega)
    have := le_of_mem_utf8EncodeChar (Nat.not_lt.mp hc) hb
    omega

theorem ascii_notMem_utf8EncodeChar {b : UInt8} {c : Char} (h : b.toNat < 128)
    (hc : c.toNat ≠ b.toNat) : b ∉ String.utf8EncodeChar c :=
  fun hb => hc ((ascii_mem_utf8EncodeChar_iff h c).mp hb)

/-! ## 2. Lines -/

example : lines "a\r\nb\r\n\n\rc\r".toList =
    ["a".toList, "b".toList, [], "\rc\r".toList] := by decide

theorem lines_of_notMem {cs : List Char} (h : '\n' ∉ cs) :
    lines cs = if cs.isEmpty then [] else [cs] := by
  rw [lines, List.splitOn_eq_singleton h]
  cases cs <;> rfl

theorem lines_append_feed {line : List Char} (h : '\n' ∉ line) (cs : List Char) :
    lines (line ++ '\n' :: cs) = dropReturn line :: lines cs := by
  have hparts : cs.splitOn '\n' ≠ [] := List.splitOn_ne_nil _ _
  rw [lines, lines, List.splitOn_append_cons_self_of_not_mem h, List.dropLast_cons_of_ne_nil hparts,
    List.getLast?_cons_of_ne_nil hparts]
  rfl

end Text

namespace JsonLinesStore

/-- What is read up to the next line feed belongs to one line. -/
theorem linesAfter_append {bs : List UInt8} (h : 10 ∉ bs) (line rest : List UInt8) :
    linesAfter line (bs ++ rest) = linesAfter (bs.reverse ++ line) rest := by
  induction bs generalizing line with
  | nil => rfl
  | cons b bs ih =>
    have hb : b ≠ 10 := fun e => h (e ▸ List.mem_cons_self)
    have hrest : 10 ∉ bs := fun hm => h (List.mem_cons_of_mem b hm)
    rw [List.cons_append, linesAfter, ih hrest, List.reverse_cons, List.append_assoc]
    · rfl
    · exact hb

theorem lineOfReversed_of_ne {b : UInt8} (h : b ≠ 13) {bytes : List UInt8} :
    lineOfReversed (b :: bytes) = (b :: bytes).reverse := by
  rw [lineOfReversed]
  exact fun rest heq => h (List.cons.inj heq).1

/-- A carriage return is cut from the bytes of a line where it is cut from the line. -/
theorem lineOfReversed_utf8 (line : List Char) :
    lineOfReversed (Text.utf8 line).reverse = Text.utf8 (Text.dropReturn line) := by
  rcases List.eq_nil_or_concat line with rfl | ⟨front, c, rfl⟩
  · rfl
  · rw [Text.dropReturn, List.concat_eq_append, List.getLast?_concat, List.dropLast_concat,
      Text.utf8_append, List.reverse_append]
    by_cases hc : c = '\r'
    · subst hc
      exact List.reverse_reverse _
    · -- The last byte of another character is no carriage return.
      rw [if_neg fun h => hc (Option.some.inj h)]
      have hlast : 13 ∉ (Text.utf8 [c]).reverse := by
        rw [List.mem_reverse, Text.utf8_cons, Text.utf8_nil, List.append_nil]
        exact Text.ascii_notMem_utf8EncodeChar (by decide) fun h => hc (Char.toNat_inj.mp h)
      have hne : (Text.utf8 [c]).reverse ≠ [] := by simp
      obtain ⟨b, bs, hbytes⟩ := List.exists_cons_of_ne_nil hne
      have hb : b ≠ 13 := fun h => hlast (hbytes ▸ h ▸ List.mem_cons_self)
      rw [hbytes, List.cons_append, lineOfReversed_of_ne hb, ← List.cons_append, ← hbytes,
        ← List.reverse_append, List.reverse_reverse, Text.utf8_append]

/-- **The lines of a file of text are the lines of the text.** -/
theorem lines_utf8 (cs : List Char) : lines (Text.utf8 cs) = (Text.lines cs).map Text.utf8 := by
  suffices h : ∀ cs read : List Char, '\n' ∉ read →
      linesAfter (Text.utf8 read).reverse (Text.utf8 cs) =
        (Text.lines (read ++ cs)).map Text.utf8 from h cs [] List.not_mem_nil
  intro cs
  induction cs with
  | nil =>
    intro read hread
    rw [List.append_nil, Text.lines_of_notMem hread, Text.utf8_nil, linesAfter,
      List.isEmpty_reverse, List.reverse_reverse]
    cases read with
    | nil => rfl
    | cons c read =>
      rw [if_neg (by simp)]
      rfl
  | cons c cs ih =>
    intro read hread
    by_cases hc : c = '\n'
    · subst hc
      rw [Text.lines_append_feed hread, List.map_cons, ← lineOfReversed_utf8, Text.utf8_cons]
      exact congrArg _ (ih [] List.not_mem_nil)
    · have hbytes : 10 ∉ String.utf8EncodeChar c :=
        Text.ascii_notMem_utf8EncodeChar (by decide) fun h => hc (Char.toNat_inj.mp h)
      have hread' : '\n' ∉ read ++ [c] := by
        simp [hread, Ne.symm hc]
      have hnext := ih (read ++ [c]) hread'
      rw [Text.utf8_append, List.reverse_append] at hnext
      rw [Text.utf8_cons, linesAfter_append hbytes]
      simpa using hnext

end JsonLinesStore

end DocTables
