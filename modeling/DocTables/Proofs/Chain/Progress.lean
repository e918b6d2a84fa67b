/-
# How far a chain has come

`Progress` says where a chain stands that was started on some collections and has handed out some
documents: these are all that the collections before the current one have to give, and then some of
the current one.  Moves that do not fail keep it (`progress_moves`), and a document that is handed
out is one more (`Progress.take`).  So

* every cursor that has been closed on the way was closed without an error (`Progress.closes`);
* no collection has been opened but those at the front which it took to come to the next document
  (`openings_moves`);
* a chain that has just handed out its `n`-th document is on the collection that supplies the `n`-th
  item of the stream (`Progress.stands_take`), and how closing it ends is how closing a cursor on
  that collection ends (`close_of_stands`).

`HandedOut` puts the two together for chains that are asked for one document after another.
-/
import DocTables.Proofs.Chain.Stream

namespace DocTables

/-- The collections that have been opened, in order. -/
def Ledger.openings (l : Ledger) : List String := l.history.filterMap CursorEvent.opened?

@[simp] theorem Ledger.openings_opening (l : Ledger) (collection : String) :
    (l.opening collection).openings = l.openings ++ [collection] := by
  simp [openings, CursorEvent.opened?]

@[simp] theorem Ledger.openings_reading (l : Ledger) (collection : String) :
    (l.reading collection).openings = l.openings := by
  simp [openings, CursorEvent.opened?]

@[simp] theorem Ledger.openings_closing (l : Ledger) (collection : String) (r : Rows) :
    (l.closing collection r).openings = l.openings := by
  simp [openings, CursorEvent.opened?]

namespace Chain

variable {query : String → Except StoreError Rows}

/-! ## 1. Streams without errors -/

theorem map_itemOf_ok (collection : String) (documents : List Document) :
    (documents.map Except.ok : List Row).map (itemOf collection) = documents.map .ok := by
  rw [List.map_map]
  rfl

theorem itemOf_injective {collection : String} (row row' : Row)
    (h : itemOf collection row = itemOf collection row') : row = row' := by
  cases row <;> cases row' <;> simp_all [itemOf]

theorem eq_of_map_itemOf {collection : String} {rows : List Row} {documents : List Document}
    (h : rows.map (itemOf collection) = documents.map .ok) : rows = documents.map .ok :=
  (List.map_inj_right itemOf_injective).mp (h.trans (map_itemOf_ok collection documents).symm)

/-- The cursor on the collection opens and closes. -/
def Closes (query : String → Except StoreError Rows) (collection : String) : Prop :=
  ∃ rows, query collection = .ok rows ∧ rows.close.1 = .ok ()

/-- Where collections give documents only, the first one does, and it opens and closes. -/
theorem streamOf_cons_eq_ok {name : String} {names : List String} {documents : List Document}
    (h : streamOf query (name :: names) = documents.map .ok) :
    ∃ rows earlier later, query name = .ok rows ∧ rows.close.1 = .ok () ∧
      documents = earlier ++ later ∧ rows.toList = earlier.map .ok ∧
      streamOf query names = later.map .ok := by
  rw [streamOf] at h
  cases hq : query name with
  | error e =>
    rw [hq] at h
    obtain ⟨d, ds, -, hd, -⟩ := List.map_eq_cons_iff.mp h.symm
    cases hd
  | ok rows =>
    simp only [hq, itemsOf] at h
    obtain ⟨earlier, later, hsplit, hearlier, hlater⟩ := List.map_eq_append_iff.mp h.symm
    cases hc : rows.close.1 with
    | error e =>
      rw [hc] at hlater
      obtain ⟨d, ds, -, hd, -⟩ := List.map_eq_cons_iff.mp hlater
      cases hd
    | ok u =>
      rw [hc] at hlater
      exact ⟨rows, earlier, later, rfl, hc, hsplit, eq_of_map_itemOf hearlier.symm, hlater.symm⟩

/-- Collections that give documents only are followed by what comes after them. -/
theorem streamOf_append : ∀ {front : List String} {documents : List Document},
    streamOf query front = documents.map .ok → ∀ back : List String,
      streamOf query (front ++ back) = documents.map .ok ++ streamOf query back
  | [], [], _, back => rfl
  | name :: front, documents, h, back => by
    obtain ⟨rows, earlier, later, hq, hc, rfl, hrows, hlater⟩ := streamOf_cons_eq_ok h
    rw [List.cons_append, streamOf, hq]
    simp only [itemsOf, hc, hrows, map_itemOf_ok, streamOf_append hlater back, List.map_append,
      List.append_assoc]

theorem closes_of_streamOf : ∀ {names : List String} {documents : List Document},
    streamOf query names = documents.map .ok → ∀ name ∈ names, Closes query name
  | [], _, _ => by simp
  | name :: names, documents, h => by
    obtain ⟨rows, earlier, later, hq, hc, -, -, hlater⟩ := streamOf_cons_eq_ok h
    intro other hother
    rcases List.mem_cons.mp hother with rfl | hother
    · exact ⟨rows, hq, hc⟩
    · exact closes_of_streamOf hlater other hother

/-- What comes after collections does not change what they give. -/
theorem streamOf_isPrefix : ∀ front back : List String,
    streamOf query front <+: streamOf query (front ++ back)
  | [], back => List.nil_prefix
  | name :: front, back => by
    rw [List.cons_append, streamOf, streamOf]
    cases query name with
    | error e => exact List.prefix_refl _
    | ok rows =>
      simp only [itemsOf]
      cases rows.close.1 with
      | error e => exact List.prefix_refl _
      | ok u => exact (List.prefix_append_right_inj _).mpr (streamOf_isPrefix front back)

theorem length_streamOf_le {front collections : List String} (h : front <+: collections) :
    (streamOf query front).length ≤ (streamOf query collections).length := by
  obtain ⟨back, rfl⟩ := h
  exact (streamOf_isPrefix front back).length_le

/-- Of two parts at the front of the same collections, the one that gives less is the shorter. -/
theorem prefix_of_length_lt {part front collections : List String} (hpart : part <+: collections)
    (hfront : front <+: collections)
    (h : (streamOf query part).length < (streamOf query front).length) : part <+: front := by
  rcases List.prefix_or_prefix_of_prefix hpart hfront with hp | hp
  · exact hp
  · exact absurd (length_streamOf_le hp) (Nat.not_le.mpr h)

/-! ## 2. Progress -/

/-- Where a chain stands that was started on collections, with a ledger, and has handed out
documents: between collections, all of whose documents it has handed out up to there, or within one,
of which it has handed out the later ones. -/
inductive Progress (query : String → Except StoreError Rows) (collections : List String)
    (before : Ledger) : List Document → Chain → Prop
  | between {given : List Document} {passed upcoming : List String} {ledger : Ledger}
      (split : collections = passed ++ upcoming)
      (gave : streamOf query passed = given.map .ok)
      (openings : ledger.openings = before.openings ++ passed) :
      Progress query collections before given ⟨query, none, upcoming, ledger⟩
  | within {earlier later : List Document} {passed upcoming : List String} {on : Current}
      {ledger : Ledger} {rows : Rows}
      (split : collections = passed ++ on.collection :: upcoming)
      (gave : streamOf query passed = earlier.map .ok)
      (answer : query on.collection = .ok rows)
      (left : rows.toList = later.map .ok ++ (on.peeked.toList.map .ok ++ on.rows.toList))
      (close : on.rows.close.1 = rows.close.1)
      (openings : ledger.openings = before.openings ++ (passed ++ [on.collection])) :
      Progress query collections before (earlier ++ later) ⟨query, some on, upcoming, ledger⟩

variable {collections : List String} {before : Ledger} {given : List Document}

theorem progress_start (query : String → Except StoreError Rows) (collections : List String)
    (before : Ledger) : Progress query collections before [] (start query collections before) :=
  .between (List.nil_append _).symm rfl (List.append_nil _).symm

/-- **The step.**  A move that does not fail hands nothing out. -/
theorem progress_move {c c' : Chain} (h : Progress query collections before given c)
    (move : Move c none c') : Progress query collections before given c' := by
  cases h with
  | between split gave openings =>
    cases move with
    | opened _ next answer =>
      obtain rfl := next
      rw [← List.append_nil given]
      refine .within split gave answer rfl rfl ?_
      simp [openings]
    | fetched here => cases here
    | finished here => cases here
  | @within earlier later passed upcoming on ledger first split gave answer left close openings =>
    cases move with
    | opened between => cases between
    | @fetched _ d rows here empty row =>
      obtain rfl := Option.some.inj here
      have hclose : rows.close.1 = on.rows.close.1 := by
        have h := on.rows.close_next
        rwa [row] at h
      refine .within split gave answer ?_ (hclose.trans close) ?_
      · rw [left, empty, toList_of_next row]
        rfl
      · simp [openings]
    | finished here empty row closed =>
      obtain rfl := Option.some.inj here
      -- The collection is over, so the later documents are all that it had to give.
      have hlater : first.toList = later.map .ok := by
        simpa [empty, toList_of_next_none row] using left
      refine .between (split.trans (List.append_cons _ _ _)) ?_ ?_
      · rw [streamOf_append gave]
        simp [streamOf, answer, itemsOf, ← close, closed, hlater, itemOf, Function.comp_def]
      · simp [openings]

theorem progress_moves {c c' : Chain} {e : Option CursorError} (moves : Moves c e c') :
    e = none → Progress query collections before given c →
      Progress query collections before given c' := by
  induction moves with
  | done c => exact fun _ => id
  | failed move => exact fun h => absurd h (by simp)
  | more move _ ih => exact fun he h => ih he (progress_move h move)

/-- A document that is handed out is one more. -/
theorem Progress.take {c : Chain} {d : Document} (h : Progress query collections before given c)
    (holds : c.Holds d) : Progress query collections before (given ++ [d]) c.take.2 := by
  obtain ⟨on, hon, hd⟩ := holds
  cases h with
  | between => cases hon
  | @within earlier later _ _ on _ _ split gave answer left close openings =>
    obtain rfl := Option.some.inj hon
    rw [List.append_assoc]
    change Progress query collections before _ ⟨query, some { on with peeked := none }, _, _⟩
    refine .within split gave answer ?_ close openings
    simp [left, hd]

/-- Where the chain has come without an error, and can be closed without one, all cursors that have
been opened on the way can be closed. -/
theorem Progress.closes {c : Chain} (h : Progress query collections before given c)
    (closed : c.close.1 = .ok ()) :
    ∃ names, c.ledger.openings = before.openings ++ names ∧ ∀ name ∈ names, Closes query name := by
  cases h with
  | between split gave openings => exact ⟨_, openings, closes_of_streamOf gave⟩
  | @within earlier later passed _ on _ rows split gave answer left close openings =>
    refine ⟨_, openings, fun name hname => ?_⟩
    rcases List.mem_append.mp hname with hname | hname
    · exact closes_of_streamOf gave name hname
    · obtain rfl := List.mem_singleton.mp hname
      refine ⟨rows, answer, close.symm.trans ?_⟩
      simp only [Chain.close, release] at closed
      cases hc : on.rows.close.1 with
      | ok u => rfl
      | error e => simp [hc] at closed

/-- Where all cursors can be closed, so can a chain that has come to where it is without an error. -/
theorem Progress.close_eq_ok {c : Chain} (h : Progress query collections before given c)
    (closes : ∀ name rows, query name = .ok rows → rows.close.1 = .ok ()) : c.close.1 = .ok () := by
  cases h with
  | between => rfl
  | within split gave answer left close openings =>
    simp only [Chain.close, release, close.trans (closes _ _ answer)]

/-! ## 3. What has been opened -/

/-- As long as collections at the front have more to give than has been handed out, no others have
been opened. -/
theorem Progress.openings_isPrefix {c : Chain} (h : Progress query collections before given c)
    {front : List String} (part : front <+: collections)
    (few : given.length < (streamOf query front).length) :
    c.ledger.openings <+: before.openings ++ front := by
  cases h with
  | @between _ passed upcoming _ split gave openings =>
    rw [openings, List.prefix_append_right_inj]
    have hless : (streamOf query passed).length < (streamOf query front).length := by
      rwa [gave, List.length_map]
    exact prefix_of_length_lt ⟨upcoming, split.symm⟩ part hless
  | @within earlier later passed upcoming on _ rows split gave answer left close openings =>
    rw [openings, List.prefix_append_right_inj]
    have hpassed : passed ++ [on.collection] <+: collections :=
      ⟨upcoming, by rw [split, List.append_assoc, List.singleton_append]⟩
    rcases List.prefix_or_prefix_of_prefix hpassed part with hp | hp
    · exact hp
    · rcases List.prefix_concat_iff.mp hp with rfl | hp
      · exact List.prefix_refl _
      · -- All of `front` has been passed, and so all that it gives has been handed out.
        have hle : (streamOf query front).length ≤ (streamOf query passed).length :=
          length_streamOf_le hp
        rw [gave, List.length_map] at hle
        rw [List.length_append] at few
        omega

/-- A move that fails opens nothing. -/
theorem openings_of_failed {c c' : Chain} {e : CursorError} (move : Move c (some e) c') :
    c'.ledger.openings = c.ledger.openings := by
  cases move <;> simp [exhaust]

/-- The moves up to the next document or error open no collections but those at the front, if these
have one more to give. -/
theorem openings_moves {c c' : Chain} {e : Option CursorError} (moves : Moves c e c')
    {front : List String} (part : front <+: collections)
    (few : given.length < (streamOf query front).length) :
    Progress query collections before given c →
      c'.ledger.openings <+: before.openings ++ front := by
  induction moves with
  | done c => exact fun h => h.openings_isPrefix part few
  | failed move =>
    intro h
    rw [openings_of_failed move]
    exact h.openings_isPrefix part few
  | more move _ ih => exact fun h => ih (progress_move h move)

/-! ## 4. Which collection supplies an item -/

/-- The `n`-th item of the stream, counted from one, comes from this collection. -/
def Supplies (query : String → Except StoreError Rows) (collections : List String) (n : Nat)
    (name : String) : Prop :=
  ∃ front back, collections = front ++ name :: back ∧ (streamOf query front).length < n ∧
    n ≤ (streamOf query (front ++ [name])).length

variable {n : Nat}

/-- A part that gives more than another without its last collection is no shorter than that one. -/
theorem eq_of_concat_isPrefix {front front' : List String} {name name' : String}
    (h : front ++ [name] <+: front' ++ [name'])
    (more : (streamOf query front').length < (streamOf query (front ++ [name])).length) :
    name = name' := by
  rcases List.prefix_concat_iff.mp h with heq | hp
  · exact List.singleton_inj.mp (List.append_inj' heq rfl).2
  · exact absurd (length_streamOf_le hp) (Nat.not_le.mpr more)

/-- Only one collection supplies an item. -/
theorem Supplies.unique {name name' : String} (h : Supplies query collections n name)
    (h' : Supplies query collections n name') : name = name' := by
  obtain ⟨front, back, hsplit, hlt, hle⟩ := h
  obtain ⟨front', back', hsplit', hlt', hle'⟩ := h'
  have part : front ++ [name] <+: collections := ⟨back, by simp [hsplit]⟩
  have part' : front' ++ [name'] <+: collections := ⟨back', by simp [hsplit']⟩
  rcases List.prefix_or_prefix_of_prefix part part' with hp | hp
  · exact eq_of_concat_isPrefix hp (Nat.lt_of_lt_of_le hlt' hle)
  · exact (eq_of_concat_isPrefix hp (Nat.lt_of_lt_of_le hlt hle')).symm

theorem Supplies.mem {name : String} (h : Supplies query collections n name) :
    name ∈ collections := by
  obtain ⟨front, back, rfl, -, -⟩ := h
  exact List.mem_append_right _ List.mem_cons_self

/-- The cursor on the collection that supplies the `n`-th item cannot be closed, for this cause. -/
def CloseFails (query : String → Except StoreError Rows) (collections : List String) (n : Nat)
    (cause : CursorError) : Prop :=
  ∃ name rows e, Supplies query collections n name ∧ query name = .ok rows ∧
    rows.close.1 = .error e ∧ cause = .closeFailed name e

/-- The chain is on the collection that supplies the `n`-th item, unless it is between collections
and has nothing to close. -/
def Stands (query : String → Except StoreError Rows) (collections : List String) (n : Nat)
    (c : Chain) : Prop :=
  match c.current with
  | none => ∀ cause, ¬CloseFails query collections n cause
  | some on => Supplies query collections n on.collection ∧
      ∃ rows, query on.collection = .ok rows ∧ on.rows.close.1 = rows.close.1

/-- Nothing supplies an item before the first. -/
theorem stands_start (query : String → Except StoreError Rows) (collections : List String)
    (before : Ledger) : Stands query collections 0 (start query collections before) := by
  rintro cause ⟨name, -, -, ⟨front, back, -, hlt, -⟩, -⟩
  exact absurd hlt (Nat.not_lt_zero _)

/-- A chain that has handed out a document is on the collection that has supplied it. -/
theorem Progress.stands_take {c : Chain} {d : Document}
    (h : Progress query collections before given c) (holds : c.Holds d) :
    Stands query collections (given.length + 1) c.take.2 := by
  obtain ⟨on, hon, hd⟩ := holds
  cases h with
  | between => cases hon
  | @within earlier later passed upcoming on _ rows split gave answer left close openings =>
    obtain rfl := Option.some.inj hon
    have hitems : later.length + 1 ≤ (streamOf query [on.collection]).length := by
      simp only [streamOf, answer, itemsOf, left, hd, Option.toList_some, List.length_append,
        List.length_map, List.length_singleton]
      omega
    have hpart : (earlier ++ later).length + 1 ≤
        (streamOf query (passed ++ [on.collection])).length := by
      rw [streamOf_append gave, List.length_append, List.length_append, List.length_map]
      omega
    refine ⟨⟨passed, upcoming, split, ?_, hpart⟩, rows, answer, close⟩
    rw [gave, List.length_map, List.length_append]
    omega

/-- Where a chain has come to its end without an error, it has closed all of its collections. -/
theorem Progress.stands_of_exhausted {c : Chain} (h : Progress query collections before given c)
    (ended : c.Exhausted) (n : Nat) : Stands query collections n c := by
  cases h with
  | @between _ passed _ _ split gave openings =>
    obtain rfl : _ = [] := ended.2
    rw [List.append_nil] at split
    rintro cause ⟨name, rows, e, supplies, answer, failed, -⟩
    obtain ⟨rows', answer', closed⟩ := closes_of_streamOf gave name (split ▸ supplies.mem)
    obtain rfl := Except.ok.inj (answer.symm.trans answer')
    rw [closed] at failed
    cases failed
  | within => cases ended.1

/-- **How closing ends.**  The error of closing is that of the collection which has supplied the
last item. -/
theorem close_of_stands {c : Chain} (h : Stands query collections n c) (cause : CursorError) :
    c.close.1 = .error cause ↔ CloseFails query collections n cause := by
  unfold Stands at h
  simp only [Chain.close, release]
  cases hc : c.current with
  | none =>
    rw [hc] at h
    exact ⟨fun heq => (by cases heq), fun failed => absurd failed (h cause)⟩
  | some on =>
    rw [hc] at h
    obtain ⟨hs, rows, hq, hclose⟩ := h
    simp only [hclose]
    constructor
    · intro heq
      cases hr : rows.close.1 with
      | ok u => simp [hr] at heq
      | error e => exact ⟨_, rows, e, hs, hq, hr, by simpa [hr, eq_comm] using heq⟩
    · rintro ⟨name, rows', e, hs', hq', hr, rfl⟩
      obtain rfl := hs.unique hs'
      obtain rfl := Except.ok.inj (hq.symm.trans hq')
      simp [hr]

/-! ## 5. One document after another -/

theorem Progress.hasNext {c : Chain} (h : Progress query collections before given c)
    {available : Bool} (answer : c.hasNext.1 = .ok available) :
    Progress query collections before given c.hasNext.2 :=
  progress_moves c.hasNext_moves (by rw [answer, failure?]) h

/-- A chain that was started on collections has handed out `n` documents without an error, and
stands on the collection of the last, unless it is between collections and has nothing to close. -/
def HandedOut (query : String → Except StoreError Rows) (collections : List String)
    (before : Ledger) (n : Nat) (c : Chain) : Prop :=
  ∃ given, Progress query collections before given c ∧ given.length = n ∧
    Stands query collections n c

theorem handedOut_start (query : String → Except StoreError Rows) (collections : List String)
    (before : Ledger) : HandedOut query collections before 0 (start query collections before) :=
  ⟨[], progress_start query collections before, rfl, stands_start query collections before⟩

/-- Another document is handed out. -/
theorem HandedOut.take {c fetched : Chain} (h : HandedOut query collections before n c)
    (available : c.hasNext = (.ok true, fetched)) :
    HandedOut query collections before (n + 1) fetched.take.2 := by
  obtain ⟨given, progress, rfl, -⟩ := h
  have hfetched := progress.hasNext (congrArg Prod.fst available)
  have hsettled := c.hasNext_settles
  rw [available] at hfetched hsettled
  obtain ⟨d, holds⟩ : ∃ d, fetched.Holds d := hsettled
  exact ⟨_, hfetched.take holds, by simp, hfetched.stands_take holds⟩

/-- There is no other document. -/
theorem HandedOut.ended {c c' : Chain} (h : HandedOut query collections before n c)
    (atEnd : c.hasNext = (.ok false, c')) : HandedOut query collections before n c' := by
  obtain ⟨given, progress, hlength, -⟩ := h
  have hended := progress.hasNext (congrArg Prod.fst atEnd)
  have hsettled := c.hasNext_settles
  rw [atEnd] at hended hsettled
  exact ⟨given, hended, hlength, hended.stands_of_exhausted hsettled n⟩

end Chain

end DocTables
