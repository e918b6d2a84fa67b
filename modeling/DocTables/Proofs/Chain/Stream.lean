/-
# A chain is the concatenation of its collections

`streamOf` says what reading collections one after another ought to give: the rows of each in
order, an error in place of a row that cannot be read, and one last error if a collection cannot be
opened or closed.  `rest` says what a chain has still to give of it, with the document that has been
fetched in front.

A move takes its error, if it ends in one, from the front of `rest` and leaves the rest as it is
(`rest_move`).  So `next?` and `next` take the first item (`next?_eq`, `next_eq`), and `hasNext`
takes an error but no document (`hasNext_eq`).  A run of calls therefore gives out a prefix of the
stream, and nothing else (`rest_run`).
-/
import DocTables.Proofs.Chain.Moves

namespace DocTables.Chain

/-- A document of a stream, or an error in its place. -/
abbrev Item := Except CursorError Document

/-! ## 1. The stream -/

/-- What a row of a collection gives. -/
def itemOf (collection : String) : Row → Item
  | .ok d => .ok d
  | .error e => .error (.readFailed collection e)

/-- What a collection gives before `after`: its rows, and then an error if it cannot be closed, in
which case nothing comes after it. -/
def itemsOf (collection : String) (rows : Rows) (after : List Item) : List Item :=
  rows.toList.map (itemOf collection) ++
    match rows.close.1 with
    | .ok () => after
    | .error e => [.error (.closeFailed collection e)]

/-- What collections give one after another. -/
def streamOf (query : String → Except StoreError Rows) : List String → List Item
  | [] => []
  | name :: rest =>
    match query name with
    | .error e => [.error (.openFailed name e)]
    | .ok rows => itemsOf name rows (streamOf query rest)

/-- What is still to come of a chain. -/
def rest (c : Chain) : List Item :=
  match c.current with
  | none => streamOf c.query c.upcoming
  | some on =>
    on.peeked.toList.map .ok ++ itemsOf on.collection on.rows (streamOf c.query c.upcoming)

theorem rest_of_exhausted {c : Chain} (h : c.Exhausted) : c.rest = [] := by
  simp [rest, h.1, h.2, streamOf]

theorem rest_of_holds {c : Chain} {d : Document} (h : c.Holds d) :
    c.rest = .ok d :: c.take.2.rest := by
  obtain ⟨on, hon, hd⟩ := h
  simp [rest, take, hon, hd]

theorem toList_of_next {rows rows' : Rows} {row : Row} (h : rows.next = (some row, rows')) :
    rows.toList = row :: rows'.toList := by
  have h1 := rows.next_eq
  have h2 := rows.toList_next
  rw [h] at h1 h2
  cases ht : rows.toList with
  | nil => simp [ht] at h1
  | cons r rs =>
    obtain rfl : row = r := by simpa [ht] using h1
    rw [h2, ht, List.tail_cons]

/-- A row that is taken from a collection is the first of its items. -/
theorem itemsOf_next {rows rows' : Rows} {row : Row} (h : rows.next = (some row, rows'))
    (collection : String) (after : List Item) :
    itemsOf collection rows after =
      itemOf collection row :: itemsOf collection rows' after := by
  have hc : rows'.close.1 = rows.close.1 := by
    have h3 := rows.close_next
    rwa [h] at h3
  simp [itemsOf, toList_of_next h, hc]

theorem toList_of_next_none {rows : Rows} (h : rows.next.1 = none) : rows.toList = [] := by
  rw [Rows.next_eq] at h
  exact List.head?_eq_none_iff.mp h

/-! ## 2. What the calls take from it -/

/-- **The step.**  A move gives out its error and keeps the rest. -/
theorem rest_move {c c' : Chain} {e : Option CursorError} (h : Move c e c') :
    c.rest = e.toList.map .error ++ c'.rest := by
  cases h with
  | openFailed between next answer =>
    simp [rest, between, next, streamOf, answer, exhaust]
  | opened between next answer => simp [rest, between, next, streamOf, answer]
  | fetched here empty row => simp [rest, here, empty, itemsOf_next row, itemOf]
  | readFailed here empty row => simp [rest, here, empty, itemsOf_next row, itemOf]
  | finished here empty row close =>
    simp [rest, here, empty, itemsOf, toList_of_next_none row, close]
  | closeFailed here empty row close =>
    simp [rest, here, empty, itemsOf, toList_of_next_none row, close, streamOf]

theorem rest_moves {c c' : Chain} {e : Option CursorError} (h : Moves c e c') :
    c.rest = e.toList.map .error ++ c'.rest := by
  induction h with
  | done c => rfl
  | failed move => exact rest_move move
  | more move _ ih => rw [rest_move move, ih]; rfl

/-- What an answer of `hasNext` takes: its error, if it is one. -/
theorem rest_of_hasNext {c c' : Chain} {answer : Except CursorError Bool}
    (h : c.hasNext = (answer, c')) : c.rest = (failure? answer).toList.map .error ++ c'.rest := by
  have hr := rest_moves c.hasNext_moves
  rwa [h] at hr

/-- **`hasNext` takes no document.**  It answers whether one comes first; an error that comes first
is its answer and is taken. -/
theorem hasNext_eq (c : Chain) :
    match c.rest with
    | [] => c.hasNext.1 = .ok false ∧ c.hasNext.2.Exhausted
    | .ok d :: _ => c.hasNext.1 = .ok true ∧ c.hasNext.2.rest = c.rest ∧ c.hasNext.2.Holds d
    | .error e :: rest => c.hasNext.1 = .error e ∧ c.hasNext.2.rest = rest := by
  have hr := rest_moves c.hasNext_moves
  have hs := c.hasNext_settles
  cases ha : c.hasNext.1 with
  | error e =>
    rw [ha] at hr
    rw [hr]
    exact ⟨rfl, rfl⟩
  | ok b =>
    rw [ha] at hr hs
    have hr : c.rest = c.hasNext.2.rest := hr
    cases b with
    | false =>
      rw [hr, rest_of_exhausted hs]
      exact ⟨rfl, hs⟩
    | true =>
      obtain ⟨d, hd⟩ := hs
      rw [hr, rest_of_holds hd]
      exact ⟨rfl, rfl, hd⟩

/-- **The chain as an iterator is the list `rest`.**  It gives the first item and goes on with the
others. -/
theorem next?_eq (c : Chain) : c.next?.1 = c.rest.head? ∧ c.next?.2.rest = c.rest.tail := by
  have h := c.hasNext_eq
  unfold next?
  match hr : c.rest, hn : c.hasNext with
  | [], (answer, c') =>
    rw [hr, hn] at h
    obtain ⟨rfl, he⟩ := h
    exact ⟨rfl, rest_of_exhausted he⟩
  | .error e :: rest, (answer, c') =>
    rw [hr, hn] at h
    obtain ⟨rfl, rfl⟩ := h
    exact ⟨rfl, rfl⟩
  | .ok d :: rest, (answer, c') =>
    rw [hr, hn] at h
    obtain ⟨rfl, hrest, hd⟩ := h
    rw [rest_of_holds hd] at hrest
    simp only
    rw [take_of_holds hd]
    exact ⟨rfl, (List.cons.inj hrest).2⟩

/-- `next` gives the same, and the error `exhausted` where there is no item. -/
theorem next_eq (c : Chain) :
    c.next.1 = c.rest.head?.getD (.error .exhausted) ∧ c.next.2.rest = c.rest.tail := by
  rw [next_eq_next?, (next?_eq c).1]
  exact ⟨rfl, (next?_eq c).2⟩

/-- The stream has no place for the answer that it is over. -/
theorem exhausted_notMem_itemsOf {after : List Item} (h : .error .exhausted ∉ after)
    (collection : String) (rows : Rows) : .error .exhausted ∉ itemsOf collection rows after := by
  intro hm
  rcases List.mem_append.mp hm with hm | hm
  · obtain ⟨row, -, hrow⟩ := List.mem_map.mp hm
    cases row <;> simp [itemOf] at hrow
  · cases hc : rows.close.1 with
    | ok u => rw [hc] at hm; exact h hm
    | error e => rw [hc] at hm; simp at hm

theorem exhausted_notMem_streamOf (query : String → Except StoreError Rows) :
    ∀ names : List String, .error .exhausted ∉ streamOf query names
  | [] => by simp [streamOf]
  | name :: names => by
    rw [streamOf]
    cases query name with
    | error e => simp
    | ok rows => exact exhausted_notMem_itemsOf (exhausted_notMem_streamOf query names) name rows

theorem exhausted_notMem_rest (c : Chain) : .error .exhausted ∉ c.rest := by
  unfold rest
  cases c.current with
  | none => exact exhausted_notMem_streamOf c.query c.upcoming
  | some on =>
    intro hm
    rcases List.mem_append.mp hm with hm | hm
    · simp at hm
    · exact exhausted_notMem_itemsOf (exhausted_notMem_streamOf c.query c.upcoming) _ _ hm

/-! ## 3. What runs give out -/

/-- What an answer gives out of a stream: its document, or its error, unless that only says that
there is nothing more. -/
def Answer.items : Answer → List Item
  | .available (.error e) => [.error e]
  | .available (.ok _) => []
  | .document (.error .exhausted) => []
  | .document answer => [answer]
  | .item answer => answer.toList
  | .closed (.error e) => [.error e]
  | .closed (.ok ()) => []

/-- What the answers of a run give out, in order. -/
def given (answers : List Answer) : List Item := answers.flatMap Answer.items

theorem items_document {r : Item} (h : r ≠ .error .exhausted) :
    (Answer.document r).items = [r] := by
  match r with
  | .ok d => rfl
  | .error (.openFailed name e) => rfl
  | .error (.readFailed name e) => rfl
  | .error (.closeFailed name e) => rfl
  | .error .exhausted => exact absurd rfl h

/-- A call that reads gives out the front of what is to come. -/
theorem rest_perform (c : Chain) (reading : Reading) :
    c.rest = (c.perform (.read reading)).1.items ++ (c.perform (.read reading)).2.rest := by
  cases reading with
  | hasNext =>
    have h := rest_moves c.hasNext_moves
    simp only [perform]
    cases ha : c.hasNext.1 <;> simpa [ha, failure?, Answer.items] using h
  | next =>
    obtain ⟨h1, h2⟩ := c.next_eq
    simp only [perform, h1, h2]
    cases hr : c.rest with
    | nil => rfl
    | cons r rs =>
      have hne : r ≠ .error .exhausted := fun e => c.exhausted_notMem_rest (by simp [hr, e])
      simp [items_document hne]
  | iterate =>
    obtain ⟨h1, h2⟩ := c.next?_eq
    simp only [perform, h1, h2, Answer.items]
    cases c.rest <;> rfl

/-- A run of reading calls gives out the front of what is to come. -/
theorem rest_run : ∀ (calls : List Reading) (c : Chain),
    c.rest = given (c.run (calls.map .read)).1 ++ (c.run (calls.map .read)).2.rest
  | [], c => rfl
  | call :: calls, c => by
    have ih := rest_run calls (c.perform (.read call)).2
    rw [rest_perform c call, ih]
    simp [run, given]

/-- Iterating gives the items that are to come, one after another. -/
theorem run_iterate : ∀ (items : List Item) (c : Chain), c.rest = items →
    let ran := c.run (List.replicate items.length (.read .iterate))
    ran.1 = items.map (fun item => .item (some item)) ∧ ran.2.rest = []
  | [], c, h => ⟨rfl, h⟩
  | item :: items, c, h => by
    obtain ⟨h1, h2⟩ := c.next?_eq
    obtain ⟨ih1, ih2⟩ := run_iterate items c.next?.2 (by rw [h2, h, List.tail_cons])
    simp only [List.length_cons, List.replicate_succ, run, perform, h1, h, List.map_cons]
    exact ⟨by rw [ih1]; rfl, ih2⟩

/-- When nothing is to come, every call that reads says so, and that remains. -/
theorem run_of_rest_nil : ∀ (calls : List Reading) (c : Chain), c.rest = [] →
    (c.run (calls.map .read)).1 = calls.map fun call => Call.atEnd (.read call)
  | [], _, _ => rfl
  | call :: calls, c, h => by
    have hstep : (c.perform (.read call)).1 = Call.atEnd (.read call) := by
      have hn := c.hasNext_eq
      rw [h] at hn
      cases call with
      | hasNext => simp [perform, hn.1, Call.atEnd]
      | next => simp [perform, c.next_eq.1, h, Call.atEnd]
      | iterate => simp [perform, c.next?_eq.1, h, Call.atEnd]
    have hrest : (c.perform (.read call)).2.rest = [] := by
      have hr := c.rest_perform call
      rw [h] at hr
      exact (List.append_eq_nil_iff.mp hr.symm).2
    simp only [List.map_cons, run, hstep, run_of_rest_nil calls _ hrest]

/-- **A chain refines the concatenation of its collections.**  Whatever calls are made on a fresh
chain in whatever order, what they give out is the front of the stream.  Iterating from there gives
all that is left, and after that every call says for ever that there is nothing more. -/
theorem run_gives_stream (query : String → Except StoreError Rows) (collections : List String)
    (ledger : Ledger) (calls : List Reading) :
    let ran := (start query collections ledger).run (calls.map .read)
    ∃ left : List Item,
      streamOf query collections = given ran.1 ++ left ∧
      let drained := ran.2.run (List.replicate left.length (.read .iterate))
      drained.1 = left.map (fun item => .item (some item)) ∧
        ∀ later : List Reading,
          (drained.2.run (later.map .read)).1 = later.map fun call => Call.atEnd (.read call) := by
  intro ran
  refine ⟨ran.2.rest, ?_, ?_⟩
  · exact rest_run calls (start query collections ledger)
  · obtain ⟨h1, h2⟩ := run_iterate ran.2.rest ran.2 rfl
    exact ⟨h1, fun later => run_of_rest_nil later _ h2⟩

end DocTables.Chain
