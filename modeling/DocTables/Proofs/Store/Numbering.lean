/-
# The lines that errors name

A cursor on a file of JSON lines reads on after an error as after a document: every row comes from a
line of its own, rows come in the order of their lines, and a line that no row comes from is blank
or holds a document that the query does not select, or lies behind the limit (`Accounts`).  So no
line is skipped or read twice, whatever the bytes of the file are (`reads_lines`).

An error names the line of a text that describes no document.  The number it gives is one more than
the *lines of text* before; lines whose bytes are no text do not count.  It is the number of the
line in the file exactly if all lines before are text, and it falls behind by one for each line that
is not (`number_falls_behind`).
-/
import DocTables.Proofs.Store.Agreement

namespace DocTables.JsonLinesStore

/-! ## 1. Lines of a file -/

/-- The text of a line, if its bytes are text. -/
def text? (line : List UInt8) : Option String := String.fromUTF8? ⟨line.toArray⟩

/-- The number of lines that are text. -/
def texts (lines : List (List UInt8)) : Nat := lines.countP fun line => (text? line).isSome

/-- The number of lines whose bytes are no text. -/
def torn (lines : List (List UInt8)) : Nat := lines.countP fun line => (text? line).isNone

theorem texts_append (before after : List (List UInt8)) :
    texts (before ++ after) = texts before + texts after := List.countP_append

theorem texts_cons_of_isText {line : List UInt8} (h : (text? line).isSome)
    (lines : List (List UInt8)) : texts (line :: lines) = texts lines + 1 :=
  List.countP_cons_of_pos h

theorem texts_add_torn (lines : List (List UInt8)) : texts lines + torn lines = lines.length := by
  have htorn : torn lines = lines.countP fun line => ¬(text? line).isSome = true :=
    List.countP_congr fun line _ => by simp
  rw [htorn, texts, ← List.length_eq_countP_add_countP]

theorem torn_eq_zero_iff {lines : List (List UInt8)} :
    torn lines = 0 ↔ ∀ line ∈ lines, (text? line).isSome := by
  simp [torn, List.countP_eq_zero, Option.isSome_iff_ne_none]

/-- A line ends at the next line feed. -/
theorem lines_append_feed {line : List UInt8} (h : 10 ∉ line) (rest : List UInt8) :
    lines (line ++ 10 :: rest) = lineOfReversed line.reverse :: lines rest := by
  rw [lines, linesAfter_append h, List.append_nil]
  rfl

/-- The last line may have no line feed. -/
theorem lines_of_notMem {line : List UInt8} (h : 10 ∉ line) :
    lines line = if line.isEmpty then [] else [line] := by
  have happend := linesAfter_append h [] []
  rw [List.append_nil, List.append_nil] at happend
  rw [lines, happend, linesAfter, List.isEmpty_reverse, List.reverse_reverse]

/-- **Lines are counted by line feeds.**  So many line feeds stand before a line as there are lines
before it. -/
theorem drop_lines : ∀ (i : Nat) (bytes : List UInt8), i < (lines bytes).length →
    ∃ before rest, bytes = before ++ rest ∧ before.count 10 = i ∧
      (lines bytes).drop i = lines rest
  | 0, bytes, _ => ⟨[], bytes, rfl, rfl, rfl⟩
  | i + 1, bytes, hi => by
    by_cases hfeed : 10 ∈ bytes
    · obtain ⟨line, rest, rfl, hline⟩ := List.eq_append_cons_of_mem hfeed
      rw [lines_append_feed hline] at hi ⊢
      obtain ⟨before, rest, rfl, hcount, hdrop⟩ := drop_lines i rest (Nat.lt_of_succ_lt_succ hi)
      refine ⟨line ++ 10 :: before, rest, by simp, ?_, hdrop⟩
      rw [List.count_append, List.count_cons_self, hcount, List.count_eq_zero.mpr hline]
      exact Nat.zero_add _
    · rw [lines_of_notMem hfeed] at hi
      split at hi <;> simp at hi

/-! ## 2. What becomes of a line -/

/-- What a line comes to when it is read with a number: an error, or a document that the query
selects. -/
inductive Yields (path : String) (q : Query) (number : Nat) (line : List UInt8) : Row → Prop
  | notText (torn : text? line = none) : Yields path q number line (.error (.notText path))
  | undecodable {text : String} {fault : LineFault} (isText : text? line = some text)
      (filled : Text.isBlankText text = false)
      (fails : decode path number text = .error (.undecodable path number fault)) :
      Yields path q number line (.error (.undecodable path number fault))
  | document {text : String} {d : Document} (isText : text? line = some text)
      (filled : Text.isBlankText text = false) (decoded : Document.ofText? text = some d)
      (selected : q.selects d = true) : Yields path q number line (.ok (q.shape d))

/-- A line that no row comes from: it is blank, or the query does not select its document. -/
inductive PassedOver (q : Query) (line : List UInt8) : Prop
  | blank {text : String} (isText : text? line = some text) (blank : Text.isBlankText text = true)
  | unselected {text : String} {d : Document} (isText : text? line = some text)
      (filled : Text.isBlankText text = false) (decoded : Document.ofText? text = some d)
      (unselected : q.selects d = false)

theorem PassedOver.isText {q : Query} {line : List UInt8} (h : PassedOver q line) :
    (text? line).isSome := by
  cases h with
  | blank isText | unselected isText => simp [isText]

/-- A text describes a document, or the error names its line. -/
theorem decode_cases (path : String) (number : Nat) (text : String) :
    (∃ d, Document.ofText? text = some d ∧ decode path number text = .ok d) ∨
      ∃ fault, decode path number text = .error (.undecodable path number fault) := by
  cases hdocument : Document.ofText? text with
  | some d => exact .inl ⟨d, rfl, decode_of_ofText? hdocument path number⟩
  | none =>
    right
    unfold decode
    cases hjson : Json.parse? text with
    | none => exact ⟨_, rfl⟩
    | some json =>
      simp only
      cases hd : Document.ofJson json with
      | error message => exact ⟨_, rfl⟩
      | ok d => simp [Document.ofText?, hjson, hd, Except.toOption] at hdocument

theorem eq_undecodable_of_decode {path : String} {number : Nat} {text : String} {e : StoreError}
    (h : decode path number text = .error e) :
    ∃ fault, e = .undecodable path number fault := by
  rcases decode_cases path number text with ⟨d, -, hd⟩ | ⟨fault, hfault⟩
  · rw [hd] at h
    cases h
  · exact ⟨fault, Except.error.inj (h.symm.trans hfault)⟩

theorem ofText?_of_decode {path : String} {number : Nat} {text : String} {d : Document}
    (h : decode path number text = .ok d) : Document.ofText? text = some d := by
  rcases decode_cases path number text with ⟨d', hd', hdecoded⟩ | ⟨fault, hfault⟩
  · rw [hd', Except.ok.inj (h.symm.trans hdecoded)]
  · rw [hfault] at h
    cases h

/-! ## 3. Reading on -/

namespace LineCursor

variable {path : String} {q : Query}

/-- The number of documents in a row. -/
def counted (row : Row) : Nat := if row.toBool then 1 else 0

/-- Reading on to a row: lines are passed over, one is read, and the cursor goes on behind it. -/
def ReadsOn (path : String) (q : Query) (count returned : Nat) (lines : List (List UInt8))
    (row : Row) (c : LineCursor) : Prop :=
  ∃ passed line, lines = passed ++ line :: c.lines ∧ (∀ l ∈ passed, PassedOver q l) ∧
    Yields path q (count + passed.length + 1) line row ∧
    c.count = count + texts (passed ++ [line]) ∧ c.returned = returned + counted row

/-- The first line is read. -/
theorem readsOn_first {count count' returned returned' : Nat} {line : List UInt8}
    {rest : List (List UInt8)} {row : Row} (yields : Yields path q (count + 1) line row)
    (hcount : count' = count + texts [line]) (hreturned : returned' = returned + counted row) :
    ReadsOn path q count returned (line :: rest) row ⟨rest, count', returned'⟩ :=
  ⟨[], line, rfl, by simp, yields, hcount, hreturned⟩

/-- The first line is passed over. -/
theorem ReadsOn.pass {count returned : Nat} {line : List UInt8} {lines : List (List UInt8)}
    {row : Row} {c : LineCursor} (passed : PassedOver q line)
    (h : ReadsOn path q (count + 1) returned lines row c) :
    ReadsOn path q count returned (line :: lines) row c := by
  obtain ⟨before, l, rfl, hbefore, yields, hcount, hreturned⟩ := h
  refine ⟨line :: before, l, rfl, List.forall_mem_cons.mpr ⟨passed, hbefore⟩, ?_, ?_, hreturned⟩
  · rw [List.length_cons, Nat.add_comm before.length 1, ← Nat.add_assoc]
    exact yields
  · rw [hcount, List.cons_append, texts_cons_of_isText passed.isText, Nat.add_assoc, Nat.add_comm 1]

/-- **A row is read on to.** -/
theorem readsOn_of_advance {count returned : Nat} {lines : List (List UInt8)} {row : Row}
    {c : LineCursor} (h : advance path q count returned lines = some (row, c)) :
    ReadsOn path q count returned lines row c := by
  fun_induction advance path q count returned lines with
  | case1 => cases h
  | case2 count line rest htext =>
    cases h
    exact readsOn_first (.notText htext) (by simp [texts, text?, htext]) rfl
  | case3 count line rest text htext hblank ih => exact (ih h).pass (.blank htext hblank)
  | case4 count line rest text htext hfilled e he =>
    cases h
    obtain ⟨fault, rfl⟩ := eq_undecodable_of_decode he
    exact readsOn_first (.undecodable htext (by simpa using hfilled) he)
      (by simp [texts, text?, htext]) rfl
  | case5 count line rest text htext hfilled d hd hselected =>
    cases h
    exact readsOn_first
      (.document htext (by simpa using hfilled) (ofText?_of_decode hd) hselected)
      (by simp [texts, text?, htext]) rfl
  | case6 count line rest text htext hfilled d hd hselected ih =>
    exact (ih h).pass (.unselected htext (by simpa using hfilled) (ofText?_of_decode hd)
      (by simpa using hselected))

/-- Where there is no row to come, all lines are passed over. -/
theorem passedOver_of_advance {count returned : Nat} {lines : List (List UInt8)}
    (h : advance path q count returned lines = none) : ∀ line ∈ lines, PassedOver q line := by
  fun_induction advance path q count returned lines with
  | case1 => simp
  | case2 => cases h
  | case3 count line rest text htext hblank ih =>
    exact List.forall_mem_cons.mpr ⟨.blank htext hblank, ih h⟩
  | case4 => cases h
  | case5 => cases h
  | case6 count line rest text htext hfilled d hd hselected ih =>
    refine List.forall_mem_cons.mpr ⟨?_, ih h⟩
    exact .unselected htext (by simpa using hfilled) (ofText?_of_decode hd) (by simpa using hselected)

end LineCursor

/-! ## 4. The account of a cursor -/

/-- A row and where it comes from: how many lines stand before its line in the file. -/
structure Reading where
  place : Nat
  row : Row

/-- How many documents have been read. -/
def documentCount (readings : List Reading) : Nat := readings.countP (·.row.toBool)

theorem documentCount_cons (r : Reading) (readings : List Reading) :
    documentCount (r :: readings) = LineCursor.counted r.row + documentCount readings :=
  List.countP_cons.trans (Nat.add_comm _ _)

/-- What a cursor reads of the lines of a file from some line on, when it has handed out some
documents. -/
structure Accounts (path : String) (q : Query) (lines : List (List UInt8)) (start returned : Nat)
    (readings : List Reading) : Prop where
  /-- Rows come in the order of their lines, each from a line of its own. -/
  inOrder : readings.Pairwise (·.place < ·.place)
  fromStart : ∀ r ∈ readings, start ≤ r.place
  /-- A row is what its line comes to, read with the number after the lines of text before it. -/
  own : ∀ r ∈ readings, ∃ line, lines[r.place]? = some line ∧
    Yields path q (texts (lines.take r.place) + 1) line r.row
  /-- The other lines are passed over, or stand behind the last row that the limit allows. -/
  others : ∀ i line, start ≤ i → lines[i]? = some line → (∀ r ∈ readings, r.place ≠ i) →
    PassedOver q line ∨
      (∀ r ∈ readings, r.place < i) ∧
        q.limit.any (· ≤ returned + documentCount readings) = true

namespace Accounts

variable {path : String} {q : Query} {lines : List (List UInt8)} {start returned : Nat}

/-- Nothing is read of lines that are all passed over, or if no more documents are allowed. -/
theorem nil (h : q.limit.any (· ≤ returned) = true ∨ ∀ line ∈ lines.drop start, PassedOver q line) :
    Accounts path q lines start returned [] := by
  refine ⟨.nil, by simp, by simp, fun i line hstart hline _ => ?_⟩
  rcases h with hlimit | hpassed
  · exact .inr ⟨by simp, hlimit⟩
  · refine .inl (hpassed line (List.mem_of_getElem? (i := i - start) ?_))
    rw [List.getElem?_drop, Nat.add_sub_cancel' hstart]
    exact hline

/-- **One more row in front.** -/
theorem cons {passed rest : List (List UInt8)} {line : List UInt8} {row : Row}
    {readings : List Reading} (split : lines.drop start = passed ++ line :: rest)
    (passedOver : ∀ l ∈ passed, PassedOver q l)
    (yields : Yields path q (texts (lines.take start) + passed.length + 1) line row)
    (later : Accounts path q lines (start + passed.length + 1)
      (returned + LineCursor.counted row) readings) :
    Accounts path q lines start returned (⟨start + passed.length, row⟩ :: readings) := by
  have hget (i : Nat) : lines[start + i]? = (passed ++ line :: rest)[i]? := by
    rw [← split, List.getElem?_drop]
  have htexts : texts (lines.take (start + passed.length)) =
      texts (lines.take start) + passed.length := by
    have hpassed : torn passed = 0 := torn_eq_zero_iff.mpr fun l hl => (passedOver l hl).isText
    rw [List.take_add, split, List.take_left, texts_append, ← texts_add_torn passed, hpassed]
    rfl
  have hbehind : ∀ r ∈ readings, start + passed.length < r.place := later.fromStart
  refine ⟨List.pairwise_cons.mpr ⟨hbehind, later.inOrder⟩, ?_, ?_, ?_⟩
  · refine List.forall_mem_cons.mpr ⟨Nat.le_add_right _ _, fun r hr => ?_⟩
    exact Nat.le_trans (Nat.le_add_right _ _) (Nat.le_of_lt (hbehind r hr))
  · refine List.forall_mem_cons.mpr ⟨⟨line, by simp [hget], ?_⟩, later.own⟩
    rw [htexts]
    exact yields
  · intro i l hstart hl hother
    obtain ⟨hne, hother⟩ := List.forall_mem_cons.mp hother
    rcases Nat.lt_or_gt_of_ne hne with hlt | hgt
    · -- A line behind the row is one for the rows to come.
      refine (later.others i l hlt hl hother).imp_right fun ⟨hlast, hlimit⟩ => ⟨?_, ?_⟩
      · exact List.forall_mem_cons.mpr ⟨hlt, hlast⟩
      · rwa [documentCount_cons, ← Nat.add_assoc]
    · -- A line before the row has been passed over on the way to it.
      obtain ⟨k, rfl⟩ := Nat.exists_eq_add_of_le hstart
      have hk : k < passed.length := by simpa using hgt
      rw [hget, List.getElem?_append_left hk] at hl
      exact .inl (passedOver l (List.mem_of_getElem? hl))

end Accounts

/-- **The rows of a cursor, each with its line.**  The cursor has gone past so many lines of a file,
and counted those that are text. -/
theorem accounts_toList (path : String) (q : Query) {lines : List (List UInt8)} (c : LineCursor) :
    ∀ start, c.lines = lines.drop start → c.count = texts (lines.take start) →
      ∃ readings, c.toList path q = readings.map Reading.row ∧
        Accounts path q lines start c.returned readings := by
  fun_induction LineCursor.toList path q c with
  | case1 c hnone =>
    intro start hlines _
    refine ⟨[], rfl, .nil ?_⟩
    unfold LineCursor.next? at hnone
    split at hnone
    · rename_i hlimit
      exact .inl hlimit
    · exact .inr (hlines ▸ LineCursor.passedOver_of_advance hnone)
  | case2 c row c' hnext ih =>
    intro start hlines hcount
    have hadvance : LineCursor.advance path q c.count c.returned c.lines = some (row, c') := by
      unfold LineCursor.next? at hnext
      split at hnext
      · cases hnext
      · exact hnext
    obtain ⟨passed, line, hsplit, hpassed, hyields, hcount', hreturned⟩ :=
      LineCursor.readsOn_of_advance hadvance
    rw [hlines] at hsplit
    have hrest : c'.lines = lines.drop (start + passed.length + 1) := by
      rw [Nat.add_assoc, ← List.drop_drop, hsplit]
      simp
    have htake : c'.count = texts (lines.take (start + passed.length + 1)) := by
      rw [Nat.add_assoc, List.take_add, hsplit, List.take_length_add_append, texts_append, hcount',
        hcount]
      rfl
    obtain ⟨readings, hrows, haccounts⟩ := ih _ hrest htake
    refine ⟨⟨start + passed.length, row⟩ :: readings, by rw [hrows]; rfl, ?_⟩
    rw [hreturned] at haccounts
    rw [hcount] at hyields
    exact .cons hsplit hpassed hyields haccounts

/-! ## 5. Errors and their lines -/

/-- **Every row belongs to its line, and an error names it unless torn lines stand before.**  The
cursor on a collection file answers any number of reads with the rows of `readings`: in the order of
lines, each from a line of its own, with no line in between that is not passed over; so many line
feeds stand before a line as its place says.  The number in an error falls behind that of the line by
the lines before it that are no text. -/
theorem reads_lines {s : JsonLinesStore} {database collection : String} {bytes : List UInt8}
    (folder : s.files.isFolder (Path.join s.root database) = true)
    (file : s.files.read? (s.filePath database collection) = some bytes) (q : Query) :
    ∃ (cursor : Rows) (readings : List Reading),
      s.toStore.find database collection q = .ok cursor ∧
      (∀ n, (cursor.reads n).1 = Rows.answers (readings.map Reading.row) n) ∧
      Accounts (s.filePath database collection) q (lines bytes) 0 0 readings ∧
      ∀ r ∈ readings,
        (∃ before rest, bytes = before ++ rest ∧ before.count 10 = r.place ∧
          (lines bytes).drop r.place = lines rest) ∧
        ∀ path number fault, r.row = .error (.undecodable path number fault) →
          number + torn ((lines bytes).take r.place) = r.place + 1 ∧
          (number = r.place + 1 ↔ ∀ line ∈ (lines bytes).take r.place, (text? line).isSome) := by
  obtain ⟨readings, hrows, accounts⟩ :=
    accounts_toList (s.filePath database collection) q ⟨lines bytes, 0, 0⟩ 0 rfl rfl
  refine ⟨_, readings, find_eq_ok_iff.mpr ⟨folder, bytes, file, rfl⟩, fun n => ?_, accounts, ?_⟩
  · rw [Rows.reads_eq, ← hrows]
    rfl
  · intro r hr
    obtain ⟨line, hline, yields⟩ := accounts.own r hr
    have hplace : r.place < (lines bytes).length := (List.getElem?_eq_some_iff.mp hline).1
    refine ⟨drop_lines r.place bytes hplace, fun path number fault herror => ?_⟩
    have hnumber : number = texts ((lines bytes).take r.place) + 1 := by
      rw [herror] at yields
      cases yields with
      | undecodable isText filled fails => rfl
    have hlength := texts_add_torn ((lines bytes).take r.place)
    rw [List.length_take_of_le (Nat.le_of_lt hplace)] at hlength
    refine ⟨by omega, ?_⟩
    rw [← torn_eq_zero_iff]
    omega

/-- A document, a blank line, a line that is no text, and a text that is no document. -/
def tornLines : List UInt8 := "\x7b\"a\": true\x7d\n\n".toUTF8.data.toList ++ [255, 10, 120]

/-- What the cursor on the file of a collection hands out. -/
theorem toList_ofOrders {bytes : List UInt8} {cursor : Rows}
    (h : (ofOrders bytes).toStore.find "shop" "orders" .all = .ok cursor) :
    cursor.toList =
      LineCursor.toList ((ofOrders bytes).filePath "shop" "orders") .all ⟨lines bytes, 0, 0⟩ := by
  obtain ⟨-, bytes', hbytes, rfl⟩ := find_eq_ok_iff.mp h
  obtain rfl : bytes = bytes' := Option.some.inj ((read?_ofOrders bytes).symm.trans hbytes)
  rfl

/-- Reading goes on after each error; the error on the fourth line names the third. -/
theorem reads_lines_tornLines :
    let s := ofOrders tornLines
    let path := s.filePath "shop" "orders"
    s.files.isFolder (Path.join s.root "shop") = true ∧ s.files.read? path = some tornLines ∧
      ∃ (cursor : Rows) (readings : List Reading),
        s.toStore.find "shop" "orders" .all = .ok cursor ∧
        (cursor.reads 4).1 = Rows.answers (readings.map Reading.row) 4 ∧
        (cursor.reads 4).1 = [some (.ok ⟨[("a", .bool true)]⟩), some (.error (.notText path)),
          some (.error (.undecodable path 3 .malformed)), none] ∧
        Accounts path .all (lines tornLines) 0 0 readings := by
  intro s path
  have folder := isFolder_ofOrders tornLines
  have file := read?_ofOrders tornLines
  obtain ⟨cursor, readings, hfind, hreads, accounts, -⟩ := reads_lines folder file .all
  refine ⟨folder, file, cursor, readings, hfind, hreads 4, ?_, accounts⟩
  rw [Rows.reads_eq, toList_ofOrders hfind, LineCursor.toList_eq, Query.after_zero]
  rfl

/-- **A torn line is not counted.**  Behind a line that is no text, the error on the second line of a
file names the first. -/
theorem number_falls_behind :
    let s := ofOrders [255, 10, 120]
    let path := s.filePath "shop" "orders"
    ∃ (cursor : Rows) (readings : List Reading),
      s.toStore.find "shop" "orders" .all = .ok cursor ∧
      (∀ n, (cursor.reads n).1 = Rows.answers (readings.map Reading.row) n) ∧
      Accounts path .all (lines [255, 10, 120]) 0 0 readings ∧
      ∃ r ∈ readings, r.row = .error (.undecodable path 1 .malformed) ∧ r.place + 1 = 2 := by
  intro s path
  obtain ⟨readings, hrows, accounts⟩ :=
    accounts_toList path .all ⟨lines [255, 10, 120], 0, 0⟩ 0 rfl rfl
  refine ⟨_, readings, find_eq_ok_iff.mpr ⟨isFolder_ofOrders _, _, read?_ofOrders _, rfl⟩,
    fun n => ?_, accounts, ?_⟩
  · rw [Rows.reads_eq, ← hrows]
    rfl
  · have hread : LineCursor.toList path .all ⟨lines [255, 10, 120], 0, 0⟩ =
        [.error (.notText path), .error (.undecodable path 1 .malformed)] := by
      rw [LineCursor.toList_eq, Query.after_zero]
      rfl
    obtain ⟨first, rest, rfl, -, hrest⟩ := List.map_eq_cons_iff.mp (hrows.symm.trans hread)
    obtain ⟨second, rest, rfl, hsecond, -⟩ := List.map_eq_cons_iff.mp hrest
    refine ⟨second, by simp, hsecond, ?_⟩
    -- The second row is behind the first, and there are two lines.
    have hlt : first.place < second.place := (List.pairwise_cons.mp accounts.inOrder).1 _ (by simp)
    obtain ⟨line, hline, -⟩ := accounts.own second (by simp)
    have hle : second.place < 2 := (List.getElem?_eq_some_iff.mp hline).1
    omega

end DocTables.JsonLinesStore
