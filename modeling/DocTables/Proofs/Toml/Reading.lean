/-
# TOML lines are read back

A line is a key, an equals sign and a value, and each is read back: a key in whichever of its three
forms it is written (`scanKey_keyText`), and a text, a size or a truth value (`scanValue_text?`).  So
lines are read as the statements that assign the values (`scanStatements_lines?`), and carrying these
out appends the values in their order, as long as no key stands twice (`build?_assignments`).
-/
import Mathlib
import DocTables.Proofs.Coercion.Integral
import DocTables.Proofs.Toml.Quoted
import DocTables.Toml.Printer

namespace DocTables.Toml

/-- A character of a class is none that the class leaves out. -/
theorem ne_of_class {p : Char → Bool} {c d : Char} (hc : p c = true) (hd : p d = false) : c ≠ d :=
  ne_of_apply_ne p (by rw [hc, hd]; decide)

/-! ## 1. Keys -/

/-- How a key starts. -/
theorem keyText_eq_cons (key : String) :
    ∃ c more, keyText key = c :: more ∧ (isBare c = true ∨ c = '"' ∨ c = '\'') := by
  unfold keyText
  dsimp only
  split
  · rename_i bare
    rw [Bool.and_eq_true, Bool.not_eq_true', List.isEmpty_eq_false_iff] at bare
    obtain ⟨c, more, hcs⟩ := List.exists_cons_of_ne_nil bare.1
    rw [hcs, List.all_cons, Bool.and_eq_true] at bare
    exact ⟨c, more, hcs, .inl bare.2.1⟩
  · split
    · exact ⟨'"', _, rfl, .inr (.inl rfl)⟩
    · split
      · exact ⟨'\'', _, rfl, .inr (.inr rfl)⟩
      · exact ⟨'"', _, rfl, .inr (.inl rfl)⟩

theorem scanKey_bare {cs rest : List Char} (nonempty : cs ≠ []) (bare : ∀ c ∈ cs, isBare c = true)
    (hrest : ∀ c ∈ rest.head?, isBare c = false) :
    scanKey (cs ++ rest) = some (String.ofList cs, rest) := by
  obtain ⟨c, more, rfl⟩ := List.exists_cons_of_ne_nil nonempty
  have hc := bare c List.mem_cons_self
  have htake : rest.takeWhile isBare = [] := by
    cases rest with
    | nil => rfl
    | cons d rest => rw [List.takeWhile_cons, hrest d rfl]; rfl
  have hdrop : rest.dropWhile isBare = rest := by
    cases rest with
    | nil => rfl
    | cons d rest => rw [List.dropWhile_cons, hrest d rfl]; rfl
  rw [List.cons_append, scanKey, ← List.cons_append, List.takeWhile_append_of_pos bare,
    List.dropWhile_append_of_pos bare, htake, hdrop, List.append_nil]
  · rfl
  · exact fun _ heq => ne_of_class hc (by decide) (List.cons.inj heq).1
  · exact fun _ heq => ne_of_class hc (by decide) (List.cons.inj heq).1

/-- **A key is read back**, up to what cannot be part of a bare key. -/
theorem scanKey_keyText (key : String) {rest : List Char} (hrest : ∀ c ∈ rest.head?, isBare c = false) :
    scanKey (keyText key ++ rest) = some (key, rest) := by
  have basicForm : scanKey (basic key.toList ++ rest) = some (key, rest) := by
    have hbasic : basic key.toList ++ rest = '"' :: (escapeLine key.toList ++ '"' :: rest) := by
      simp [basic]
    rw [hbasic, scanKey, scanBasic_escapeLine]
    simp
  unfold keyText
  dsimp only
  split
  · rename_i bare
    rw [Bool.and_eq_true, Bool.not_eq_true', List.isEmpty_eq_false_iff] at bare
    rw [scanKey_bare bare.1 (List.all_eq_true.mp bare.2) hrest, String.ofList_toList]
  · split
    · exact basicForm
    · split
      · rename_i hliteral
        simp only [Bool.and_eq_true, Bool.not_eq_true', beq_iff_eq] at hliteral
        have hplain : ∀ c ∈ key.toList, isPlain c = true := by
          simpa using List.any_eq_false.mp hliteral.1
        have htext : literal key.toList ++ rest = '\'' :: (key.toList ++ '\'' :: rest) := by
          simp [literal]
        rw [htext, scanKey, scanLiteral_append _ (not_mem_of_longestRun hliteral.2) hplain]
        simp
      · exact basicForm

/-! ## 2. Sizes -/

/-- Digits stand for the number that they are written for. -/
theorem digitsValue_toDigits (n : Nat) : digitsValue 10 (Nat.toDigits 10 n) = n := by
  induction n using Nat.strongRecOn with
  | _ n ih =>
    have hlast : ∀ m < 10, (Text.Hex.digit? m.digitChar).getD 0 = m := by decide
    by_cases hn : n < 10
    · rw [Nat.toDigits_of_lt_base hn, digitsValue, List.foldl_cons, List.foldl_nil, hlast n hn]
      omega
    · have ih := ih (n / 10) (by omega)
      rw [digitsValue] at ih ⊢
      rw [Nat.toDigits_of_base_le (by decide) (by omega), List.foldl_append, ih, List.foldl_cons,
        List.foldl_nil, hlast _ (Nat.mod_lt n (by decide))]
      omega

/-- No zero stands in front. -/
theorem head?_toDigits {n : Nat} (hn : 0 < n) : (Nat.toDigits 10 n).head? ≠ some '0' := by
  induction n using Nat.strongRecOn with
  | _ n ih =>
    by_cases hlt : n < 10
    · have hfirst : ∀ m < 10, 0 < m → m.digitChar ≠ '0' := by decide
      rw [Nat.toDigits_of_lt_base hlt]
      simpa using hfirst n hlt hn
    · rw [Nat.toDigits_of_base_le (by decide) (by omega),
        List.head?_append_of_ne_nil _ Nat.toDigits_ne_nil]
      exact ih (n / 10) (by omega) (by omega)

/-- After some of the digits, digits and the line end are left. -/
theorem exists_digits_of_scanFixed {width k : Nat} {ds rest left : List Char}
    (digits : ∀ c ∈ ds, Text.isDigit c = true)
    (h : Instant.scanFixed width (ds ++ '\n' :: rest) = some (k, left)) :
    ∃ es, left = es ++ '\n' :: rest ∧ ∀ c ∈ es, Text.isDigit c = true := by
  unfold Instant.scanFixed at h
  dsimp only at h
  split at h
  · obtain ⟨n, hn, heq⟩ := Option.map_eq_some_iff.mp h
    cases heq
    by_cases hwidth : width ≤ ds.length
    · refine ⟨ds.drop width, List.drop_append_of_le_length hwidth, fun c hc => ?_⟩
      exact digits c ((List.drop_sublist _ _).subset hc)
    · -- the line end would be one of the digits
      have hline : '\n' ∈ (ds ++ '\n' :: rest).take width := by
        rw [List.take_append]
        refine List.mem_append_right _ ?_
        obtain ⟨m, hm⟩ : ∃ m, width - ds.length = m + 1 := ⟨width - ds.length - 1, by omega⟩
        rw [hm]
        exact List.mem_cons_self
      cases htake : (ds ++ '\n' :: rest).take width with
      | nil => rw [htake] at hline; cases hline
      | cons c cs =>
        rw [htake, Text.nat?] at hn
        split at hn
        · rename_i hall
          rw [htake] at hline
          exact absurd (List.all_eq_true.mp hall _ hline) (by decide)
        · cases hn
        · simp
  · cases h

/-- Digits and a line end start with no other character. -/
theorem head_ne_of_digits {es rest after : List Char} (digits : ∀ c ∈ es, Text.isDigit c = true) {d : Char}
    (hd : Text.isDigit d = false) (hline : d ≠ '\n') : es ++ '\n' :: rest ≠ d :: after := by
  intro heq
  cases es with
  | nil => exact hline (List.cons.inj heq).1.symm
  | cons c es => exact ne_of_class (digits c List.mem_cons_self) hd (List.cons.inj heq).1

theorem startsDate_digits {ds : List Char} (digits : ∀ c ∈ ds, Text.isDigit c = true)
    (rest : List Char) : startsDate (ds ++ '\n' :: rest) = false := by
  unfold startsDate
  split
  · rename_i heq
    obtain ⟨es, hleft, hes⟩ := exists_digits_of_scanFixed digits heq
    exact absurd hleft.symm (head_ne_of_digits hes (by decide) (by decide))
  · rfl

theorem startsTime_digits {ds : List Char} (digits : ∀ c ∈ ds, Text.isDigit c = true)
    (rest : List Char) : startsTime (ds ++ '\n' :: rest) = false := by
  unfold startsTime
  split
  · rename_i heq
    obtain ⟨⟨n, left⟩, hscan, heq⟩ := Option.bind_eq_some_iff.mp heq
    simp only [Option.ite_none_right_eq_some, Option.some.injEq, Prod.mk.injEq] at heq
    obtain ⟨es, hleft, hes⟩ := exists_digits_of_scanFixed digits hscan
    exact absurd (hleft.symm.trans heq.2.2) (head_ne_of_digits hes (by decide) (by decide))
  · rfl

theorem spanDigits_append (rest : List Char) : ∀ {ds : List Char}, (∀ c ∈ ds, Text.isDigit c = true) →
    spanDigits Text.isDigit (ds ++ '\n' :: rest) = (ds, '\n' :: rest)
  | [], _ => by
    rw [List.nil_append, spanDigits]
    · rfl
    · exact fun _ _ hc _ => absurd hc (by decide)
  | c :: ds, digits => by
    obtain ⟨here, later⟩ := List.forall_mem_cons.mp digits
    rw [List.cons_append, spanDigits, if_pos here, spanDigits_append rest later]
    rintro d more rfl -
    cases here

/-- What follows the digits of a whole number. -/
theorem scanTail_line (ds : List Char) {n : Nat} (hn : digitsValue 10 ds = n) (small : n ≤ maxInteger)
    (rest : List Char) :
    scanTail false ds ('\n' :: rest) = some (.integer n, '\n' :: rest) := by
  have hfits : Text.fitsInt64 (n : Int) = true := by
    have hsmall : n ≤ 0x7FFFFFFFFFFFFFFF := small
    rw [Text.fitsInt64_iff]
    omega
  rw [scanTail]
  · simp [scanTail.signed, hn, integer?, hfits]
  · exact fun hc => absurd hc (by decide)

/-- **A size is read back**, if it is small enough to be written. -/
theorem scanNumber_toDigits {n : Nat} (small : n ≤ maxInteger) (rest : List Char) :
    scanNumber (Nat.toDigits 10 n ++ '\n' :: rest) = some (.integer n, '\n' :: rest) := by
  have digits : ∀ c ∈ Nat.toDigits 10 n, Text.isDigit c = true := fun c => Text.isDigit_of_mem_toDigits
  rcases Nat.eq_zero_or_pos n with rfl | hn
  · exact scanTail_line ['0'] rfl small rest
  · have hvalue := digitsValue_toDigits n
    have hzero := head?_toDigits hn
    obtain ⟨c, ds, hds⟩ := List.exists_cons_of_ne_nil (Nat.toDigits_ne_nil (n := n) (b := 10))
    rw [hds] at digits hvalue hzero ⊢
    have hc := digits c List.mem_cons_self
    have hc0 : c ≠ '0' := by simpa using hzero
    have hother (d : Char) (hd : Text.isDigit d = false) : c ≠ d := ne_of_class hc hd
    have hsign : scanSign (c :: (ds ++ '\n' :: rest)) = (false, c :: (ds ++ '\n' :: rest)) := by
      simp [scanSign, hother '+' (by decide), hother '-' (by decide)]
    have hwhole : scanWhole (c :: (ds ++ '\n' :: rest)) = some (c :: ds, '\n' :: rest) := by
      rw [scanWhole]
      · rw [scanDigits, List.head?_cons, Option.any_some, if_pos hc, ← List.cons_append,
          spanDigits_append rest digits]
      · exact fun _ heq => hc0 (List.cons.inj heq).1
    rw [List.cons_append, scanNumber]
    · dsimp only
      rw [hsign]
      split
      · rename_i heq
        exact absurd (List.cons.inj heq).1 (hother 'i' (by decide))
      · rename_i heq
        exact absurd (List.cons.inj heq).1 (hother 'n' (by decide))
      · rw [hwhole]
        exact scanTail_line _ hvalue small rest
    · exact fun _ _ heq => hc0 (List.cons.inj heq).1

/-! ## 3. Values -/

/-- The value that is written. -/
def Scalar.toml : Scalar → Toml
  | .string s => .string s
  | .size n => .integer n
  | .boolean b => .boolean b

/-- A text in quotes starts with a quote. -/
theorem quote_eq_cons (cs : List Char) : ∃ q more, quote cs = q :: more ∧ (q = '"' ∨ q = '\'') := by
  unfold quote
  dsimp only
  split
  · exact ⟨'"', _, rfl, .inl rfl⟩
  · split
    · exact ⟨'\'', _, rfl, .inr rfl⟩
    · split
      · exact ⟨'"', _, rfl, .inl rfl⟩
      · split
        · exact ⟨'\'', _, rfl, .inr rfl⟩
        · split
          · exact ⟨'"', _, rfl, .inl rfl⟩
          · exact ⟨'"', _, rfl, .inl rfl⟩

theorem scanScalar_quote (s : String) (rest : List Char) :
    scanScalar (quote s.toList ++ '\n' :: rest) = some (.string s, '\n' :: rest) := by
  have hread := scanQuoted_quote s.toList rest
  obtain ⟨q, more, hquote, hq⟩ := quote_eq_cons s.toList
  rw [hquote] at hread ⊢
  rcases hq with rfl | rfl
  · rw [List.cons_append] at hread ⊢
    rw [scanScalar, hread]
    simp
  · rw [List.cons_append] at hread ⊢
    rw [scanScalar, hread]
    simp

theorem scanScalar_size {n : Nat} (small : n ≤ maxInteger) (rest : List Char) :
    scanScalar (Nat.toDigits 10 n ++ '\n' :: rest) = some (.integer n, '\n' :: rest) := by
  have digits : ∀ c ∈ Nat.toDigits 10 n, Text.isDigit c = true := fun c => Text.isDigit_of_mem_toDigits
  rw [scanScalar]
  · rw [startsDate_digits digits, startsTime_digits digits]
    exact scanNumber_toDigits small rest
  · exact fun _ => head_ne_of_digits digits (by decide) (by decide)
  · exact fun _ => head_ne_of_digits digits (by decide) (by decide)
  · exact fun _ => head_ne_of_digits digits (by decide) (by decide)
  · exact fun _ => head_ne_of_digits digits (by decide) (by decide)

/-- How a written value starts. -/
theorem text?_eq_cons {s : Scalar} {text : List Char} (h : s.text? = some text) :
    ∃ c more, text = c :: more ∧ isSpace c = false ∧ c ≠ '[' ∧ c ≠ '\x7b' := by
  cases s with
  | string s =>
    cases h
    obtain ⟨q, more, hquote, hq⟩ := quote_eq_cons s.toList
    refine ⟨q, more, hquote, ?_⟩
    rcases hq with rfl | rfl <;> decide
  | size n =>
    obtain ⟨-, heq⟩ := Option.ite_none_right_eq_some.mp h
    obtain ⟨c, ds, hds⟩ := List.exists_cons_of_ne_nil (Nat.toDigits_ne_nil (n := n) (b := 10))
    have hc : Text.isDigit c = true := Text.isDigit_of_mem_toDigits (hds ▸ List.mem_cons_self)
    refine ⟨c, ds, by rw [← Option.some.inj heq, Nat.toList_repr, hds], ?_⟩
    have hother (d : Char) (hd : Text.isDigit d = false) : c ≠ d := ne_of_class hc hd
    exact ⟨by simp [isSpace, hother ' ' (by decide), hother '\t' (by decide)],
      hother '[' (by decide), hother '\x7b' (by decide)⟩
  | boolean b =>
    cases h
    cases b
    · exact ⟨'f', _, rfl, by decide⟩
    · exact ⟨'t', _, rfl, by decide⟩

/-- **A written value is read back**, up to the end of its line. -/
theorem scanValue_text? {s : Scalar} {text : List Char} (h : s.text? = some text) (depth : Nat)
    (rest : List Char) :
    scanValue (depth + 1) (text ++ '\n' :: rest) = some (s.toml, '\n' :: rest) := by
  have hscalar : scanValue (depth + 1) (text ++ '\n' :: rest) = scanScalar (text ++ '\n' :: rest) := by
    obtain ⟨c, more, rfl, -, hbracket, hbrace⟩ := text?_eq_cons h
    rw [List.cons_append, scanValue]
    · exact fun _ heq => hbracket (List.cons.inj heq).1
    · exact fun _ heq => hbrace (List.cons.inj heq).1
  rw [hscalar]
  cases s with
  | string s =>
    cases h
    exact scanScalar_quote s rest
  | size n =>
    obtain ⟨small, heq⟩ := Option.ite_none_right_eq_some.mp h
    rw [← Option.some.inj heq, Nat.toList_repr]
    exact scanScalar_size small rest
  | boolean b =>
    cases h
    cases b <;> rfl

/-! ## 4. Lines -/

theorem skipSpace_cons {c : Char} (h : isSpace c = false) (rest : List Char) :
    skipSpace (c :: rest) = c :: rest := by
  simp [skipSpace, h]

/-- Neither space nor the signs of lines and sections start a key. -/
theorem keyText_first (key : String) : ∃ c more, keyText key = c :: more ∧ isSpace c = false ∧
    c ≠ '\n' ∧ c ≠ '#' ∧ c ≠ '[' ∧ c ≠ byteOrderMark := by
  obtain ⟨c, more, hkey, hc⟩ := keyText_eq_cons key
  have hother (d : Char) (hd : isBare d = false ∧ d ≠ '"' ∧ d ≠ '\'') : c ≠ d := by
    rcases hc with hc | rfl | rfl
    · exact ne_of_class hc hd.1
    · exact hd.2.1.symm
    · exact hd.2.2.symm
  exact ⟨c, more, hkey, by simp [isSpace, hother ' ' (by decide), hother '\t' (by decide)],
    hother _ (by decide), hother _ (by decide), hother _ (by decide), hother _ (by decide)⟩

/-- A path of one key. -/
theorem scanPath_keyText (key : String) {c : Char} {after : List Char} (bare : isBare c = false)
    (point : (skipSpace (c :: after)).head? ≠ some '.') :
    scanPath (keyText key ++ c :: after) = some ([key], skipSpace (c :: after)) := by
  have hskip : skipSpace (keyText key ++ c :: after) = keyText key ++ c :: after := by
    obtain ⟨d, more, hkey, space, -⟩ := keyText_first key
    rw [hkey]
    exact skipSpace_cons space _
  have hkey : scanKey (keyText key ++ c :: after) = some (key, c :: after) :=
    scanKey_keyText key fun d hd => by
      cases hd
      exact bare
  have hkeys : scanKeys ((keyText key ++ c :: after).length + 1) (keyText key ++ c :: after) =
      some ([key], skipSpace (c :: after)) := by
    rw [scanKeys, hskip, hkey]
    dsimp only [Option.bind_eq_bind, Option.bind_some]
    split
    · rename_i heq
      rw [heq] at point
      exact absurd rfl point
    · rfl
  rw [scanPath, hkeys]
  rfl

/-- **A line is read back** as the statement that assigns its value. -/
theorem scanStatement_line? {key : String} {s : Scalar} {line : List Char}
    (h : line? key s = some line) (rest : List Char) :
    scanStatement (line ++ rest) = some (.assignment [key] s.toml, rest) := by
  obtain ⟨text, htext, rfl⟩ := Option.map_eq_some_iff.mp h
  obtain ⟨c, more, hkey, -, -, -, hbracket, -⟩ := keyText_first key
  obtain ⟨d, after, htail, space, -, -⟩ := text?_eq_cons htext
  have hline : keyText key ++ [' ', '=', ' '] ++ text ++ ['\n'] ++ rest =
      keyText key ++ ' ' :: '=' :: ' ' :: (text ++ '\n' :: rest) := by simp
  have hpath : scanPath (keyText key ++ ' ' :: '=' :: ' ' :: (text ++ '\n' :: rest)) =
      some ([key], '=' :: ' ' :: (text ++ '\n' :: rest)) :=
    scanPath_keyText key (by decide) (by simp [skipSpace, isSpace])
  have hskip : skipSpace (' ' :: (text ++ '\n' :: rest)) = text ++ '\n' :: rest := by
    rw [htail]
    exact skipSpace_cons space _
  have hassign : scanAssignment (scanValue depthLimit)
      (keyText key ++ ' ' :: '=' :: ' ' :: (text ++ '\n' :: rest)) =
        some (([key], s.toml), '\n' :: rest) := by
    rw [scanAssignment, hpath]
    simp only [Option.bind_eq_bind, Option.bind_some, hskip]
    rw [depthLimit, scanValue_text? htext]
    rfl
  rw [hline]
  unfold scanStatement
  split
  · rename_i heq
    rw [hkey] at heq
    exact absurd (List.cons.inj heq).1 hbracket
  · rename_i heq
    rw [hkey] at heq
    exact absurd (List.cons.inj heq).1 hbracket
  · rw [hassign]
    rfl

/-- The line with the name of a section. -/
theorem scanStatement_header (name : String) (rest : List Char) :
    scanStatement (header name ++ rest) = some (.table [name], rest) := by
  obtain ⟨c, more, hkey, -, -, -, hbracket, -⟩ := keyText_first name
  have hheader : header name ++ rest = '[' :: (keyText name ++ ']' :: '\n' :: rest) := by
    simp [header]
  have hpath : scanPath (keyText name ++ ']' :: '\n' :: rest) = some ([name], ']' :: '\n' :: rest) :=
    scanPath_keyText name (by decide) (by simp [skipSpace, isSpace])
  rw [hheader, scanStatement]
  · rw [hpath]
    rfl
  · rw [hkey]
    exact fun _ heq => hbracket (List.cons.inj heq).1

/-! ## 5. Statements -/

/-- The statements that assign values under keys. -/
def assignments (es : List (String × Scalar)) : List Statement :=
  es.map fun e => .assignment [e.1] e.2.toml

theorem lines?_cons_eq (e : String × Scalar) (es : List (String × Scalar)) :
    lines? (e :: es) = (line? e.1 e.2).bind fun line => (lines? es).map (line ++ ·) := by
  rw [lines?, lines?, List.mapM_cons]
  simp only [Option.bind_eq_bind, Option.bind_assoc, Option.map_bind]
  rfl

theorem lines?_cons {e : String × Scalar} {es : List (String × Scalar)} {text : List Char}
    (h : lines? (e :: es) = some text) :
    ∃ line later, line? e.1 e.2 = some line ∧ lines? es = some later ∧ text = line ++ later := by
  rw [lines?_cons_eq] at h
  obtain ⟨line, hline, h⟩ := Option.bind_eq_some_iff.mp h
  obtain ⟨later, hlater, rfl⟩ := Option.map_eq_some_iff.mp h
  exact ⟨line, later, hline, hlater, rfl⟩

/-- Lines are written unless one of the values cannot be. -/
theorem exists_lines?_iff : ∀ {es : List (String × Scalar)},
    (∃ text, lines? es = some text) ↔ ∀ e ∈ es, ∃ text, e.2.text? = some text
  | [] => ⟨fun _ => List.forall_mem_nil _, fun _ => ⟨[], rfl⟩⟩
  | e :: es => by
    rw [List.forall_mem_cons, ← exists_lines?_iff]
    constructor
    · rintro ⟨text, h⟩
      obtain ⟨line, later, hline, hlater, -⟩ := lines?_cons h
      obtain ⟨value, hvalue, -⟩ := Option.map_eq_some_iff.mp hline
      exact ⟨⟨value, hvalue⟩, later, hlater⟩
    · rintro ⟨⟨value, hvalue⟩, later, hlater⟩
      rw [lines?_cons_eq, line?, hvalue, hlater]
      exact ⟨_, rfl⟩

/-- What follows a statement is read after it. -/
theorem scanStatements_cons {fuel : Nat} {c : Char} {cs rest : List Char} {statement : Statement}
    (space : isSpace c = false) (line : c ≠ '\n') (comment : c ≠ '#')
    (here : scanStatement (c :: cs) = some (statement, rest)) :
    scanStatements (fuel + 1) (c :: cs) = (scanStatements fuel rest).map (statement :: ·) := by
  rw [scanStatements, skipSpace_cons space]
  split
  · contradiction
  · rename_i heq
    exact absurd (List.cons.inj heq).1 line
  · rename_i heq
    exact absurd (List.cons.inj heq).1 comment
  · rw [here]
    simp only [Option.bind_eq_bind, Option.bind_some]
    cases scanStatements fuel rest <;> rfl

/-- **Lines are read back** as the statements that assign their values. -/
theorem scanStatements_lines? {fuel : Nat} {rest : List Char} : ∀ {es : List (String × Scalar)}
    {text : List Char}, lines? es = some text →
      scanStatements (fuel + es.length) (text ++ rest) =
        (scanStatements fuel rest).map (assignments es ++ ·)
  | [], text, h => by
    obtain rfl : [] = text := Option.some.inj h
    rw [List.length_nil, Nat.add_zero, List.nil_append]
    cases scanStatements fuel rest <;> rfl
  | e :: es, text, h => by
    obtain ⟨line, later, hline, hlater, rfl⟩ := lines?_cons h
    have here := scanStatement_line? hline (later ++ rest)
    obtain ⟨value, -, rfl⟩ := Option.map_eq_some_iff.mp hline
    obtain ⟨c, more, hkey, space, hend, comment, -, -⟩ := keyText_first e.1
    rw [hkey] at here ⊢
    simp only [List.cons_append, List.append_assoc] at here ⊢
    rw [List.length_cons, ← Nat.add_assoc, scanStatements_cons space hend comment here,
      scanStatements_lines? hlater, Option.map_map]
    rfl

/-- Every line takes a character. -/
theorem length_le_of_lines? : ∀ {es : List (String × Scalar)} {text : List Char},
    lines? es = some text → es.length ≤ text.length
  | [], _, _ => Nat.zero_le _
  | e :: es, text, h => by
    obtain ⟨line, later, hline, hlater, rfl⟩ := lines?_cons h
    obtain ⟨value, -, rfl⟩ := Option.map_eq_some_iff.mp hline
    have ih := length_le_of_lines? hlater
    simp only [List.length_append, List.length_cons, List.length_nil]
    omega

theorem carriage_not_mem_keyText (key : String) : '\r' ∉ keyText key := by
  unfold keyText
  dsimp only
  split
  · rename_i bare
    rw [Bool.and_eq_true] at bare
    exact fun h => absurd (List.all_eq_true.mp bare.2 _ h) (by decide)
  · split
    · exact carriage_not_mem_basic _
    · split
      · rename_i hliteral
        simp only [Bool.and_eq_true, Bool.not_eq_true'] at hliteral
        refine carriage_not_mem_literal fun h => ?_
        exact absurd (List.any_eq_false.mp hliteral.1 _ h) (by decide)
      · exact carriage_not_mem_basic _

theorem carriage_not_mem_text? {s : Scalar} {text : List Char} (h : s.text? = some text) :
    '\r' ∉ text := by
  cases s with
  | string s =>
    cases h
    exact carriage_not_mem_quote _
  | size n =>
    obtain ⟨-, heq⟩ := Option.ite_none_right_eq_some.mp h
    rw [← Option.some.inj heq, Nat.toList_repr]
    exact fun hmem => absurd (Text.isDigit_of_mem_toDigits hmem) (by decide)
  | boolean b =>
    cases h
    cases b <;> decide

theorem carriage_not_mem_lines? : ∀ {es : List (String × Scalar)} {text : List Char},
    lines? es = some text → '\r' ∉ text
  | [], text, h => by
    obtain rfl : [] = text := Option.some.inj h
    exact List.not_mem_nil
  | e :: es, text, h => by
    obtain ⟨line, later, hline, hlater, rfl⟩ := lines?_cons h
    obtain ⟨value, hvalue, rfl⟩ := Option.map_eq_some_iff.mp hline
    have ih := carriage_not_mem_lines? hlater
    simp [carriage_not_mem_keyText, carriage_not_mem_text? hvalue, ih]

/-- Without carriage returns line ends are as they should be. -/
theorem unifyLines_eq_self : ∀ {cs : List Char}, '\r' ∉ cs → unifyLines cs = cs
  | [], _ => rfl
  | c :: cs, h => by
    rw [List.mem_cons, not_or] at h
    rw [unifyLines, unifyLines_eq_self h.2]
    exact fun _ hc _ => h.1 hc.symm

/-! ## 6. Tables -/

namespace Entries

variable {key : String} {change : Option Node → Option Node} {entries : Entries}

/-- What is new comes last. -/
theorem alter?_new : ∀ {entries : Entries}, key ∉ entries.map Prod.fst →
    entries.alter? key change = (change none).map fun node => entries ++ [(key, node)]
  | [], _ => rfl
  | (k, node) :: rest, h => by
    rw [List.map_cons, List.mem_cons, not_or] at h
    rw [alter?, if_neg (Ne.symm h.1), alter?_new h.2, Option.map_map]
    rfl

theorem alter?_last {node : Node} : ∀ {entries : Entries}, key ∉ entries.map Prod.fst →
    alter? key change (entries ++ [(key, node)]) =
      (change (some node)).map fun node => entries ++ [(key, node)]
  | [], _ => by
    rw [List.nil_append, alter?, if_pos rfl]
    rfl
  | (k, other) :: rest, h => by
    rw [List.map_cons, List.mem_cons, not_or] at h
    rw [List.cons_append, alter?, if_neg (Ne.symm h.1), alter?_last h.2, Option.map_map]
    rfl

/-- Values under keys, as they stand in a table under construction. -/
def ofScalars (es : List (String × Scalar)) : Entries := es.map fun e => (e.1, .value e.2.toml)

theorem toTable_append : ∀ a b : Entries, toTable (a ++ b) = toTable a ++ toTable b
  | [], _ => by
    rw [List.nil_append, toTable, List.nil_append]
  | (key, node) :: a, b => by
    rw [List.cons_append, toTable, toTable, toTable_append a b, List.cons_append]

theorem toTable_ofScalars : ∀ es : List (String × Scalar),
    toTable (ofScalars es) = es.map fun e => (e.1, e.2.toml)
  | [] => by
    rw [ofScalars, List.map_nil, toTable, List.map_nil]
  | e :: es => by
    have ih := toTable_ofScalars es
    rw [ofScalars] at ih ⊢
    rw [List.map_cons, toTable, ih, List.map_cons, Node.toToml]

end Entries

open Entries (ofScalars)

/-- **Assignments append their values** to the table that they are about, which stands somewhere in
the document; no key may stand twice. -/
theorem build?_assignments {current : List String} (around : Entries → Entries)
    (within : ∀ (change : Entries → Option Entries) (inner : Entries),
      (around inner).within? change current = (change inner).map around) (rest : List Statement) :
    ∀ (inner : Entries) {es : List (String × Scalar)}, (inner.map Prod.fst ++ es.map Prod.fst).Nodup →
      build? current (around inner) (assignments es ++ rest) =
        build? current (around (inner ++ ofScalars es)) rest
  | inner, [], _ => by
    rw [ofScalars, List.map_nil, List.append_nil]
    rfl
  | inner, e :: es, distinct => by
    have hnew : e.1 ∉ inner.map Prod.fst := by
      rw [List.map_cons, List.nodup_append] at distinct
      exact fun h => distinct.2.2 _ h _ List.mem_cons_self rfl
    have hassign : Entries.assign? e.2.toml [e.1] inner = some (inner ++ [(e.1, .value e.2.toml)]) := by
      rw [Entries.assign?, Entries.alter?_new hnew]
      rfl
    have hdistinct : ((inner ++ [(e.1, Node.value e.2.toml)]).map Prod.fst ++ es.map Prod.fst).Nodup := by
      simpa using distinct
    have later := build?_assignments around within rest _ hdistinct
    rw [assignments, List.map_cons, List.cons_append, build?, within, hassign]
    simp only [Option.map_some, Option.bind_eq_bind, Option.bind_some]
    rw [assignments] at later
    rw [later, ofScalars, ofScalars, List.map_cons, List.append_assoc, List.singleton_append]

/-- No mark stands in front of lines. -/
theorem skipMark_lines? {es : List (String × Scalar)} {text rest : List Char} (h : lines? es = some text)
    (hrest : rest.head? ≠ some byteOrderMark) : skipMark (text ++ rest) = text ++ rest := by
  have unmarked {cs : List Char} (hcs : cs.head? ≠ some byteOrderMark) : skipMark cs = cs := by
    cases cs with
    | nil => rfl
    | cons c cs => rw [skipMark, if_neg (by simpa using hcs)]
  refine unmarked ?_
  cases es with
  | nil =>
    obtain rfl : [] = text := Option.some.inj h
    exact hrest
  | cons e es =>
    obtain ⟨line, later, hline, -, rfl⟩ := lines?_cons h
    obtain ⟨value, -, rfl⟩ := Option.map_eq_some_iff.mp hline
    obtain ⟨c, more, hkey, -, -, -, -, hmark⟩ := keyText_first e.1
    rw [hkey]
    simpa using hmark

/-- **The statements of a document** of values and one section. -/
theorem statements?_document {values table : List (String × Scalar)} {name : String}
    {first second : List Char} (hfirst : lines? values = some first) (hsecond : lines? table = some second) :
    statements? (String.ofList (first ++ ['\n'] ++ header name ++ second)) =
      some (assignments values ++ .table [name] :: (assignments table ++ [])) := by
  have hmark : skipMark (first ++ '\n' :: (header name ++ second)) =
      first ++ '\n' :: (header name ++ second) := skipMark_lines? hfirst (by simp [byteOrderMark])
  have hcarriage : '\r' ∉ first ++ '\n' :: (header name ++ second) := by
    simp [header, carriage_not_mem_lines? hfirst, carriage_not_mem_lines? hsecond,
      carriage_not_mem_keyText]
  have hlength := length_le_of_lines? hfirst
  have hlength' := length_le_of_lines? hsecond
  -- one step for every line, for the empty line, the name of the section and the end
  obtain ⟨fuel, hfuel⟩ : ∃ fuel, (first ++ '\n' :: (header name ++ second)).length + 1 =
      fuel + 1 + table.length + 1 + 1 + values.length := by
    refine ⟨(first ++ '\n' :: (header name ++ second)).length + 1 - values.length - table.length - 3, ?_⟩
    simp only [header, List.length_append, List.length_cons, List.length_nil]
    omega
  have hend : scanStatements (fuel + 1) [] = some [] := rfl
  have htable : scanStatements (fuel + 1 + table.length) second = some (assignments table ++ []) := by
    rw [← List.append_nil second, scanStatements_lines? hsecond, hend]
    rfl
  have hheader : scanStatements (fuel + 1 + table.length + 1) (header name ++ second) =
      some (.table [name] :: (assignments table ++ [])) := by
    refine (scanStatements_cons (by decide) (by decide) (by decide)
      (scanStatement_header name second)).trans ?_
    rw [htable]
    rfl
  have hblank : scanStatements (fuel + 1 + table.length + 1 + 1) ('\n' :: (header name ++ second)) =
      some (.table [name] :: (assignments table ++ [])) := by
    rw [scanStatements, skipSpace_cons (by decide)]
    exact hheader
  have htext : first ++ ['\n'] ++ header name ++ second = first ++ '\n' :: (header name ++ second) := by
    simp
  rw [htext, statements?, String.toList_ofList, hmark, unifyLines_eq_self hcarriage, hfuel,
    scanStatements_lines? hfirst, hblank]
  rfl

/-- **A document of values and one section is read back**, if no key stands twice. -/
theorem parse?_document {values table : List (String × Scalar)} {name : String}
    {first second : List Char} (hfirst : lines? values = some first) (hsecond : lines? table = some second)
    (distinct : (values.map Prod.fst).Nodup) (hname : name ∉ values.map Prod.fst)
    (hdistinct : (table.map Prod.fst).Nodup) :
    parse? (String.ofList (first ++ ['\n'] ++ header name ++ second)) =
      some ((values.map fun e => (e.1, e.2.toml)) ++
        [(name, .table (table.map fun e => (e.1, e.2.toml)))]) := by
  have hkeys : (ofScalars values).map Prod.fst = values.map Prod.fst := by
    rw [ofScalars, List.map_map]
    rfl
  have hname' : name ∉ (ofScalars values).map Prod.fst := by rwa [hkeys]
  have houter (rest : List Statement) : build? [] [] (assignments values ++ rest) =
      build? [] (ofScalars values) rest :=
    build?_assignments id (fun change inner => by
      rw [Entries.within?, Option.map_id]
      rfl) rest [] distinct
  have hopen : Entries.within? (Entries.openTable? name) [] (ofScalars values) =
      some (ofScalars values ++ [(name, .table .header [])]) := by
    rw [Entries.within?, Entries.openTable?, Entries.alter?_new hname']
    rfl
  have hinner : build? [name] (ofScalars values ++ [(name, .table .header [])]) (assignments table ++ []) =
      some (ofScalars values ++ [(name, .table .header (ofScalars table))]) :=
    build?_assignments (fun inner => ofScalars values ++ [(name, .table .header inner)])
      (fun change inner => by
        rw [Entries.within?, Entries.alter?_last hname']
        simp only [Entries.within?, Option.map_map]
        rfl) [] [] hdistinct
  rw [parse?, statements?_document hfirst hsecond]
  simp only [Option.bind_eq_bind, Option.bind_some]
  rw [houter, build?]
  simp only [List.getLast?_singleton, List.dropLast_singleton, Option.bind_eq_bind, Option.bind_some,
    hopen, hinner]
  rw [Entries.toTable_append, Entries.toTable_ofScalars, Entries.toTable, Entries.toTable,
    Node.toToml, Entries.toTable_ofScalars]
  rfl

end DocTables.Toml
