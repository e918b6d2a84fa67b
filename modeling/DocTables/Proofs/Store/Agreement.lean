/-
# Stores that read alike

A file of JSON lines and a collection in memory that holds the documents on its lines cannot be told
apart by reading.  Whatever the query, the cursors on both answer every number of reads alike: with
the documents that the query asks for, in order, and then with nothing; and once they are closed,
with nothing (`JsonLinesStore.reads_as_memory`).

The cursor on the file reads on line by line and counts what it hands out; that in memory has its
documents selected when it is opened.  That this comes to the same is `LineCursor.toList_eq`.
-/
import DocTables.Proofs.Store.Held
import DocTables.Proofs.Store.Lines
import DocTables.Proofs.Store.Names

namespace DocTables

/-! ## 1. Reading -/

namespace Rows

/-- Ask a cursor for its next row a number of times. -/
def reads (r : Rows) : Nat → List (Option Row) × Rows
  | 0 => ([], r)
  | n + 1 =>
    let (row, r) := r.next
    let (rows, r) := r.reads n
    (row :: rows, r)

/-- The answers to a number of reads of rows: the rows, and then nothing. -/
def answers (rows : List Row) (n : Nat) : List (Option Row) :=
  (rows.map some ++ List.replicate n none).take n

theorem answers_nil (n : Nat) : answers [] n = List.replicate n none := by
  simp [answers]

theorem answers_succ (rows : List Row) (n : Nat) :
    answers rows (n + 1) = rows.head? :: answers rows.tail n := by
  cases rows with
  | nil => simp [answers, List.replicate_succ]
  | cons row rows =>
    have hmin : min (n - rows.length) (n + 1) = min (n - rows.length) n := by omega
    simp [answers, List.take_append, List.take_replicate, hmin]

theorem reads_succ (r : Rows) (n : Nat) :
    (r.reads (n + 1)).1 = r.next.1 :: (r.next.2.reads n).1 := rfl

theorem reads_eq (r : Rows) (n : Nat) : (r.reads n).1 = answers r.toList n := by
  induction n generalizing r with
  | zero => simp [reads, answers]
  | succ n ih => rw [reads_succ, ih, answers_succ, next_eq, toList_next]

/-- Nothing is read from a cursor that has been closed. -/
theorem reads_close (r : Rows) (n : Nat) : (r.close.2.reads n).1 = List.replicate n none := by
  rw [reads_eq, toList_close, answers_nil]

end Rows

/-! ## 2. Documents on lines -/

/-- The document that a text describes. -/
def Document.ofText? (text : String) : Option Document := do
  (Document.ofJson (← Json.parse? text)).toOption

/-- The lines of a text that are not blank. -/
def Text.filledLines (content : String) : List String :=
  ((lines content.toList).map String.ofList).filter fun line => !isBlankText line

namespace JsonLinesStore

theorem decode_of_ofText? {line : String} {d : Document} (h : Document.ofText? line = some d)
    (path : String) (number : Nat) : decode path number line = .ok d := by
  obtain ⟨json, hjson, hd⟩ := Option.bind_eq_some_iff.mp h
  rw [decode, hjson]
  simp only
  cases hdocument : Document.ofJson json with
  | error message => simp [hdocument, Except.toOption] at hd
  | ok d' =>
    obtain rfl : d' = d := by simpa [hdocument, Except.toOption] using hd
    rfl

/-- Lines of text whose filled ones describe documents give these and nothing else. -/
theorem rows_eq_of_decoded (path : String) : ∀ (count : Nat) (lines : List (List Char))
    (documents : List Document),
    ((lines.map String.ofList).filter fun line => !Text.isBlankText line).map Document.ofText? =
      documents.map some →
    rows path count (lines.map Text.utf8) = documents.map .ok
  | count, [], documents, h => by
    obtain rfl : documents = [] := List.map_eq_nil_iff.mp h.symm
    rfl
  | count, line :: lines, documents, h => by
    rw [List.map_cons, rows, Text.fromUTF8?_utf8]
    simp only
    rw [List.map_cons] at h
    by_cases hblank : Text.isBlankText (String.ofList line) = true
    · rw [if_pos hblank]
      rw [List.filter_cons_of_neg (by simp [hblank])] at h
      exact rows_eq_of_decoded path (count + 1) lines documents h
    · rw [if_neg hblank]
      rw [List.filter_cons_of_pos (by simp [hblank])] at h
      obtain ⟨d, later, rfl, hd, hlater⟩ := List.map_eq_cons_iff.mp h.symm
      rw [decode_of_ofText? hd.symm, rows_eq_of_decoded path (count + 1) lines later hlater.symm,
        List.map_cons]

/-- A cursor on a file of text whose filled lines describe documents. -/
theorem find_of_decoded {s : JsonLinesStore} {database collection content : String}
    {documents : List Document} (folder : s.files.isFolder (Path.join s.root database) = true)
    (file : s.files.read? (s.filePath database collection) = some content.toUTF8.data.toList)
    (decoded : (Text.filledLines content).map Document.ofText? = documents.map some) (q : Query) :
    s.find database collection q =
      .ok (.ofList ((MemoryStore.select q documents).map .ok) none) := by
  refine find_eq_ok_iff.mpr ⟨folder, _, file, ?_⟩
  rw [LineCursor.toList_eq, Query.after_zero, Text.utf8_toList, lines_utf8,
    rows_eq_of_decoded _ 0 (Text.lines content.toList) documents decoded,
    MemoryStore.map_select_eq]

end JsonLinesStore

theorem MemoryStore.find_of_held {m : MemoryStore} {database collection : String}
    {collections : Fields (List Document)} {documents : List Document}
    (base : m.databases.get? database = some collections)
    (held : collections.get? collection = some documents) (q : Query) :
    ∃ failure, m.find database collection q =
      .ok (.ofList ((MemoryStore.select q documents).map .ok) failure) := by
  refine ⟨if m.failingClose.contains collection then some (.closeFailed collection) else none, ?_⟩
  simp only [find, MemoryStore.database, base, bind, Except.bind, held]
  rfl

/-- **Both stores read alike.**  Let a file of text have lines that are blank or describe documents,
and a collection in memory hold these documents.  Then every query opens a cursor on either, and
the two answer any number of reads alike: with the documents that the query asks for, in order, and
with nothing after them.  Closed at any time, they answer with nothing. -/
theorem JsonLinesStore.reads_as_memory (s : JsonLinesStore) (m : MemoryStore)
    {database collection content : String} {documents : List Document}
    (folder : s.files.isFolder (Path.join s.root database) = true)
    (file : s.files.read? (s.filePath database collection) = some content.toUTF8.data.toList)
    (decoded : (Text.filledLines content).map Document.ofText? = documents.map some)
    {base name : String} {collections : Fields (List Document)}
    (based : m.databases.get? base = some collections)
    (held : collections.get? name = some documents) (q : Query) :
    ∃ fromFile fromMemory : Rows,
      s.toStore.find database collection q = .ok fromFile ∧
      m.toStore.find base name q = .ok fromMemory ∧
      ∀ n more : Nat,
        (fromFile.reads n).1 = (fromMemory.reads n).1 ∧
        (fromMemory.reads n).1 = Rows.answers ((MemoryStore.select q documents).map .ok) n ∧
        ((fromFile.reads n).2.close.2.reads more).1 = List.replicate more none ∧
        ((fromMemory.reads n).2.close.2.reads more).1 = List.replicate more none := by
  obtain ⟨failure, hmemory⟩ := MemoryStore.find_of_held based held q
  refine ⟨_, _, find_of_decoded folder file decoded q, hmemory, fun n more => ⟨?_, ?_, ?_, ?_⟩⟩
  · rw [Rows.reads_eq, Rows.reads_eq]
    rfl
  · rw [Rows.reads_eq]
    rfl
  · exact Rows.reads_close _ more
  · exact Rows.reads_close _ more

/-- Two documents, with a carriage return, a blank line and no line feed in the end. -/
def orderLines : String := "\x7b\"a\": true\x7d\r\n \t\n\x7b\"b\": true\x7d"

/-- The documents on these lines. -/
def orderDocuments : List Document := [⟨[("a", .bool true)]⟩, ⟨[("b", .bool true)]⟩]

theorem decoded_orderLines :
    (Text.filledLines orderLines).map Document.ofText? = orderDocuments.map some := by
  have hlines : Text.filledLines orderLines = ["\x7b\"a\": true\x7d", "\x7b\"b\": true\x7d"] := by
    decide +kernel
  rw [hlines]
  rfl

/-- A store with one collection, whose file holds these bytes. -/
def JsonLinesStore.ofOrders (bytes : List UInt8) : JsonLinesStore :=
  ⟨⟨.folder [("shop", .folder [("orders.jsonl", .file bytes)])], []⟩, "/"⟩

theorem JsonLinesStore.get?_shop_ofOrders (bytes : List UInt8) :
    (ofOrders bytes).files.get? (Path.join (ofOrders bytes).root "shop") =
      some (.folder [("orders.jsonl", .file bytes)]) := by
  have hroot : (ofOrders bytes).files.get? "/" = some (ofOrders bytes).files.root := rfl
  exact (Files.get?_join hroot (by decide) (by decide)).trans rfl

theorem JsonLinesStore.isFolder_ofOrders (bytes : List UInt8) :
    (ofOrders bytes).files.isFolder (Path.join (ofOrders bytes).root "shop") = true := by
  rw [Files.isFolder, get?_shop_ofOrders]

theorem JsonLinesStore.read?_ofOrders (bytes : List UInt8) :
    (ofOrders bytes).files.read? ((ofOrders bytes).filePath "shop" "orders") = some bytes := by
  have horders : (ofOrders bytes).files.get? ((ofOrders bytes).filePath "shop" "orders") =
      some (.file bytes) :=
    (Files.get?_join (get?_shop_ofOrders bytes) (by decide) (by decide)).trans rfl
  rw [Files.read?, horders]

/-- A store with one collection, which holds these documents and whose cursors fail when they are
closed. -/
def MemoryStore.ofOrders (documents : List Document) : MemoryStore :=
  ⟨⟨[("db", ⟨[("orders", documents)]⟩)]⟩, ["orders"]⟩

/-- Both stores give the second document and then nothing. -/
theorem reads_as_memory_orders :
    let file := JsonLinesStore.ofOrders orderLines.toUTF8.data.toList
    let memory := MemoryStore.ofOrders orderDocuments
    let q : Query := ⟨some ⟨[("b", .bool true)]⟩, some ⟨[("B", .bool true)]⟩, some 1⟩
    (Text.filledLines orderLines).map Document.ofText? = orderDocuments.map some ∧
    ∃ fromFile fromMemory : Rows,
      file.toStore.find "shop" "orders" q = .ok fromFile ∧
      memory.toStore.find "db" "orders" q = .ok fromMemory ∧
      (fromFile.reads 2).1 = [some (.ok ⟨[("b", .bool true)]⟩), none] ∧
      (fromMemory.reads 2).1 = [some (.ok ⟨[("b", .bool true)]⟩), none] ∧
      ((fromMemory.reads 0).2.close.2.reads 1).1 = [none] := by
  intro file memory q
  have based : memory.databases.get? "db" = some ⟨[("orders", orderDocuments)]⟩ := rfl
  have held : (⟨[("orders", orderDocuments)]⟩ : Fields (List Document)).get? "orders" =
      some orderDocuments := rfl
  obtain ⟨fromFile, fromMemory, hfile, hmemory, h⟩ :=
    JsonLinesStore.reads_as_memory file memory (JsonLinesStore.isFolder_ofOrders _)
      (JsonLinesStore.read?_ofOrders _) decoded_orderLines based held q
  obtain ⟨hsame, hanswers, -, -⟩ := h 2 0
  have hselected : MemoryStore.select q orderDocuments = [⟨[("b", .bool true)]⟩] := by
    rfl
  rw [hselected] at hanswers
  exact ⟨decoded_orderLines, fromFile, fromMemory, hfile, hmemory, hsame.trans hanswers, hanswers,
    (h 0 1).2.2.2⟩

end DocTables
