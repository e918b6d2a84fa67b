/-
# Text in quotes is read back

What is written for a character inside quotes is the character itself, a backslash and a letter for
it, or the number of a control character (`escapeChar_cases`).  Each is read as one piece that stands
for the character (`scanBody_escapeChar`), and no piece is half of a character, so text that has been
written in quotes is read as that text, whatever follows (`scanQuoted_quote`).
-/
import DocTables.Json.Quoted
import Mathlib.Data.List.Forall2

namespace DocTables.Json

/-! ## 1. Characters -/

/-- A piece of quoted text as which a character can be read. -/
inductive Piece.StandsFor : Piece → Char → Prop
  | char (c : Char) : StandsFor (.char c) c
  /-- A control character is a UTF-16 unit of its own. -/
  | unit {c : Char} (control : c.toNat < 0x20) : StandsFor (.unit c.toNat) c

/-- A character is written with a letter for it, with its number, or as it is. -/
theorem escapeChar_cases (c : Char) :
    (∃ e, simpleEscape? e = some c ∧ escapeChar c = ['\\', e]) ∨
      (c.toNat < 0x20 ∧ escapeChar c = '\\' :: 'u' :: Text.Hex.padded false 4 c.toNat) ∨
      (c ≠ '"' ∧ c ≠ '\\' ∧ ¬c.toNat < 0x20 ∧ escapeChar c = [c]) := by
  by_cases hletter : c ∈ ['"', '\\', '\x08', '\t', '\n', '\x0c', '\r']
  · left
    simp only [List.mem_cons, List.not_mem_nil, or_false] at hletter
    rcases hletter with rfl | rfl | rfl | rfl | rfl | rfl | rfl
    · exact ⟨'"', rfl, rfl⟩
    · exact ⟨'\\', rfl, rfl⟩
    · exact ⟨'b', rfl, rfl⟩
    · exact ⟨'t', rfl, rfl⟩
    · exact ⟨'n', rfl, rfl⟩
    · exact ⟨'f', rfl, rfl⟩
    · exact ⟨'r', rfl, rfl⟩
  · right
    simp only [List.mem_cons, List.not_mem_nil, or_false, not_or] at hletter
    by_cases hcontrol : c.toNat < 0x20
    · exact .inl ⟨hcontrol, by simp [escapeChar, hletter, hcontrol]⟩
    · exact .inr ⟨hletter.1, hletter.2.1, hcontrol, by simp [escapeChar, hletter, hcontrol]⟩

theorem number?_padded : ∀ n < 0x20, Text.Hex.number? (Text.Hex.padded false 4 n) = some n := by
  decide

theorem scanBody_plain {c : Char} (hquote : c ≠ '"') (hbackslash : c ≠ '\\')
    (hcontrol : ¬c.toNat < 0x20) (rest : List Char) :
    scanBody (c :: rest) = (scanBody rest).map fun (ps, r) => (.char c :: ps, r) := by
  rw [scanBody]
  · simp only [beq_eq_false_iff_ne.mpr hbackslash, hcontrol, decide_false, Bool.or_self,
      Bool.false_eq_true, if_false]
    cases scanBody rest <;> rfl
  · exact fun h => hquote h
  · exact fun _ _ _ _ _ h => absurd h hbackslash
  · exact fun _ _ h => absurd h hbackslash

theorem scanBody_letter {e c : Char} (h : simpleEscape? e = some c) (rest : List Char) :
    scanBody ('\\' :: e :: rest) = (scanBody rest).map fun (ps, r) => (.char c :: ps, r) := by
  have hu : e ≠ 'u' := by
    rintro rfl
    cases h
  rw [scanBody]
  · rw [h]
    cases scanBody rest <;> rfl
  · exact fun _ _ _ _ _ h => absurd h hu

theorem scanBody_number {n : Nat} (h : n < 0x20) (rest : List Char) :
    scanBody ('\\' :: 'u' :: Text.Hex.padded false 4 n ++ rest) =
      (scanBody rest).map fun (ps, r) => (.unit n :: ps, r) := by
  have hnumber := number?_padded n h
  rw [show Text.Hex.padded false 4 n = [_, _, _, _] from rfl] at hnumber ⊢
  simp only [List.cons_append, List.nil_append]
  rw [scanBody, hnumber]
  cases scanBody rest <;> rfl

/-- What is written for a character is read as one piece, which stands for it. -/
theorem scanBody_escapeChar (c : Char) : ∃ p : Piece, p.StandsFor c ∧ ∀ rest,
    scanBody (escapeChar c ++ rest) = (scanBody rest).map fun (ps, r) => (p :: ps, r) := by
  rcases escapeChar_cases c with ⟨e, hletter, hc⟩ | ⟨hcontrol, hc⟩ | ⟨hquote, hbackslash, h, hc⟩
  · refine ⟨.char c, .char c, fun rest => ?_⟩
    rw [hc]
    exact scanBody_letter hletter rest
  · refine ⟨.unit c.toNat, .unit hcontrol, fun rest => ?_⟩
    rw [hc]
    exact scanBody_number hcontrol rest
  · refine ⟨.char c, .char c, fun rest => ?_⟩
    rw [hc]
    exact scanBody_plain hquote hbackslash h rest

/-! ## 2. Texts -/

theorem scanBody_flatMap : ∀ cs : List Char, ∃ ps : List Piece, List.Forall₂ Piece.StandsFor ps cs ∧
    ∀ rest, scanBody (cs.flatMap escapeChar ++ '"' :: rest) = some (ps, rest)
  | [] => ⟨[], .nil, fun _ => rfl⟩
  | c :: cs => by
    obtain ⟨p, hp, hfirst⟩ := scanBody_escapeChar c
    obtain ⟨ps, hps, hrest⟩ := scanBody_flatMap cs
    refine ⟨p :: ps, .cons hp hps, fun rest => ?_⟩
    rw [List.flatMap_cons, List.append_assoc, hfirst, hrest]
    rfl

/-- Control characters are never half of a character. -/
theorem joinPieces_unit {n : Nat} (h : n < 0x20) (ps : List Piece) :
    joinPieces (.unit n :: ps) = (joinPieces ps).map (Char.ofNat n :: ·) := by
  have hhigh : isHighUnit n = false := by simp [isHighUnit]; omega
  have hlow : isLowUnit n = false := by simp [isLowUnit]; omega
  rcases ps with _ | ⟨c | low, ps⟩
  · simp [joinPieces, hhigh, hlow]
  · simp [joinPieces, hhigh, hlow]
  · simp [joinPieces, hhigh, hlow]

theorem joinPieces_of_standsFor {ps : List Piece} {cs : List Char}
    (h : List.Forall₂ Piece.StandsFor ps cs) : joinPieces ps = some cs := by
  induction h with
  | nil => rfl
  | cons hp _ ih =>
    cases hp with
    | char c => rw [joinPieces, ih]; rfl
    | unit hcontrol => rw [joinPieces_unit hcontrol, ih, Option.map_some, Char.ofNat_toNat]

/-- **Text that has been written in quotes** is read as that text. -/
theorem scanQuoted_quote (s : String) (rest : List Char) :
    scanQuoted (s.toList.flatMap escapeChar ++ '"' :: rest) = some (some s, rest) := by
  obtain ⟨ps, hps, hscan⟩ := scanBody_flatMap s.toList
  rw [scanQuoted, hscan]
  simp [joinPieces_of_standsFor hps]

end DocTables.Json
