/-
# What a sample of a chain comes to

A sample of at most `n` documents takes in the first `n` items of the stream of its collections.  It
fails with the first error among them or, if there is none, with the error of closing the cursor on
the collection that supplies the `n`-th (`SampleFails`, `inferSchema_error_iff`); else it gives the
schema of these documents (`inferSchema_eq_ok`).

Collections that come after those which supply the items are not opened (`inferSchema_visits`).
-/
import DocTables.Chain.Sample
import DocTables.Proofs.Chain.Custody
import DocTables.Proofs.Chain.Findings
import DocTables.Proofs.Chain.Progress

namespace DocTables.Chain

variable {query : String → Except StoreError Rows} {collections : List String} {before : Ledger}
  {given documents : List Document} {n : Nat}

/-! ## 1. One document after another -/

theorem next?_of_holds {c : Chain} {d : Document} (available : c.hasNext.1 = .ok true)
    (holds : c.hasNext.2.Holds d) : c.next? = (some (.ok d), c.hasNext.2.take.2) := by
  unfold next?
  match hn : c.hasNext with
  | (answer, c') =>
    rw [hn] at available holds
    obtain rfl : answer = .ok true := available
    simp only
    rw [take_of_holds holds]

theorem next?_of_hasNext {c fetched : Chain} (h : c.hasNext = (.ok true, fetched)) :
    c.next?.2 = fetched.take.2 := by
  have hs := c.hasNext_settles
  rw [h] at hs
  obtain ⟨d, holds⟩ : ∃ d, fetched.Holds d := hs
  rw [next?_of_holds (d := d) (by rw [h]) (by rw [h]; exact holds), h]

/-- A document that is handed out is one more, and its collection is the current one. -/
theorem Progress.next?_document {c : Chain} (h : Progress query collections before given c)
    {d : Document} {items : List Item} (rest : c.rest = .ok d :: items) :
    Progress query collections before (given ++ [d]) c.next?.2 ∧
      Stands query collections (given.length + 1) c.next?.2 := by
  have hn := c.hasNext_eq
  rw [rest] at hn
  obtain ⟨available, -, holds⟩ := hn
  rw [next?_of_holds available holds]
  exact ⟨(h.hasNext available).take holds, (h.hasNext available).stands_take holds⟩

/-- Where there are no more documents, none is handed out. -/
theorem Progress.next?_none {c : Chain} (h : Progress query collections before given c)
    (rest : c.rest = []) :
    Progress query collections before given c.next?.2 ∧ c.next?.2.Exhausted := by
  have hn := c.hasNext_eq
  rw [rest] at hn
  obtain ⟨available, ended⟩ := hn
  have hchain : c.next?.2 = c.hasNext.2 := by
    unfold next?
    match hn : c.hasNext with
    | (answer, c') =>
      rw [hn] at available
      obtain rfl : answer = .ok false := available
      rfl
  rw [hchain]
  exact ⟨h.hasNext available, ended⟩

/-- What `next?` opens. -/
theorem Progress.openings_next? {c : Chain} (h : Progress query collections before given c)
    {front : List String} (part : front <+: collections)
    (few : given.length < (streamOf query front).length) :
    c.next?.2.ledger.openings <+: before.openings ++ front := by
  have hn := openings_moves c.hasNext_moves part few h
  have htake : c.hasNext.2.take.2.ledger = c.hasNext.2.ledger := by
    unfold Chain.take
    cases c.hasNext.2.current <;> rfl
  rcases c.next?_chain with he | he
  · rwa [he]
  · rwa [he, htake]

/-! ## 2. The sample -/

theorem sampleInto_succ (s : Sample) (c : Chain) (n : Nat) :
    c.sampleInto s (n + 1) =
      match c.rest with
      | [] => (.ok s, c.next?.2)
      | .error e :: _ => (.error e, c.next?.2)
      | .ok d :: _ => c.next?.2.sampleInto (s.add d) n := by
  rw [sampleInto]
  rcases hn : c.next? with ⟨answer, c'⟩
  obtain rfl : answer = c.rest.head? := by rw [← c.next?_eq.1, hn]
  match c.rest with
  | [] => rfl
  | .error e :: _ => rfl
  | .ok d :: _ => rfl

/-- Where the first items to come are documents, there is no first one, or one that is handed out.
-/
theorem rest_of_take_documents {c : Chain} (h : c.rest.take (n + 1) = documents.map .ok) :
    c.rest = [] ∧ documents = [] ∨
      ∃ d items later, c.rest = .ok d :: items ∧ documents = d :: later ∧
        c.next?.2.rest.take n = later.map .ok := by
  rw [c.next?_eq.2]
  cases hr : c.rest with
  | nil => exact .inl ⟨rfl, by simpa [hr, eq_comm] using h⟩
  | cons item items =>
    rw [hr] at h
    obtain ⟨d, later, rfl, rfl, hlater⟩ := List.map_eq_cons_iff.mp h.symm
    exact .inr ⟨d, items, later, rfl, rfl, hlater.symm⟩

/-- The documents of a sample are the first items to come. -/
theorem sampleInto_of_documents : ∀ {n : Nat} {s : Sample} {c : Chain} {documents : List Document},
    c.rest.take n = documents.map .ok → (c.sampleInto s n).1 = .ok (documents.foldl Sample.add s)
  | 0, s, c, documents, h => by
    obtain rfl : documents = [] := List.map_eq_nil_iff.mp h.symm
    rfl
  | n + 1, s, c, documents, h => by
    rw [sampleInto_succ]
    obtain ⟨hr, rfl⟩ | ⟨d, items, later, hr, rfl, hlater⟩ := rest_of_take_documents h <;> rw [hr]
    · rfl
    · exact sampleInto_of_documents hlater

/-- Items that are documents are the first that are found. -/
theorem findings_of_take : ∀ {n : Nat} {c : Chain} {documents : List Document},
    c.rest.take n = documents.map .ok → documents = (c.findings.map Found.document).take n
  | 0, c, documents, h => List.map_eq_nil_iff.mp h.symm
  | n + 1, c, documents, h => by
    have hn := c.hasNext_eq
    obtain ⟨hr, rfl⟩ | ⟨d, items, later, hr, rfl, hlater⟩ := rest_of_take_documents h <;>
      rw [hr] at hn
    · rw [hasNext_false (Prod.ext hn.1 rfl)]
      rfl
    · obtain ⟨available, -, holds⟩ := hn
      obtain ⟨source, -, htake, hfindings, -⟩ := hasNext_true (Prod.ext available rfl)
      rw [next?_of_holds available holds] at hlater
      rw [take_of_holds holds] at htake
      rw [hfindings, List.map_cons, List.take_succ_cons, ← findings_of_take hlater,
        Option.some.inj htake]

/-- An error among the first items to come is that of the sample. -/
theorem sampleInto_of_error : ∀ {n : Nat} {s : Sample} {c : Chain} {documents : List Document}
    {cause : CursorError} {later : List Item},
    c.rest.take n = documents.map .ok ++ .error cause :: later →
      (c.sampleInto s n).1 = .error cause
  | 0, s, c, documents, cause, later, h => by simp at h
  | n + 1, s, c, documents, cause, later, h => by
    have htail := c.next?_eq.2
    rw [sampleInto_succ]
    match hr : c.rest, documents with
    | [], _ => simp [hr] at h
    | .error e :: items, [] =>
      rw [hr] at h
      obtain rfl : e = cause := Except.error.inj (List.cons.inj h).1
      rfl
    | .error e :: items, d :: documents =>
      rw [hr] at h
      cases (List.cons.inj h).1
    | .ok d :: items, [] =>
      rw [hr] at h
      cases (List.cons.inj h).1
    | .ok d :: items, d' :: documents =>
      rw [hr] at h htail
      exact sampleInto_of_error (by rw [htail]; exact (List.cons.inj h).2)

/-- Where a chain has come after a sample. -/
theorem sampleInto_stands : ∀ {n : Nat} {s : Sample} {c : Chain} {given documents : List Document},
    Progress query collections before given c → Stands query collections given.length c →
    c.rest.take n = documents.map .ok →
      Progress query collections before (given ++ documents) (c.sampleInto s n).2 ∧
        Stands query collections (given.length + n) (c.sampleInto s n).2
  | 0, s, c, given, documents, h, stands, hitems => by
    obtain rfl : documents = [] := List.map_eq_nil_iff.mp hitems.symm
    rw [List.append_nil]
    exact ⟨h, stands⟩
  | n + 1, s, c, given, documents, h, stands, hitems => by
    rw [sampleInto_succ]
    obtain ⟨hr, rfl⟩ | ⟨d, items, later, hr, rfl, hlater⟩ := rest_of_take_documents hitems <;>
      rw [hr]
    · obtain ⟨h, ended⟩ := h.next?_none hr
      rw [List.append_nil]
      exact ⟨h, h.stands_of_exhausted ended _⟩
    · obtain ⟨h, stands⟩ := h.next?_document hr
      have ih := sampleInto_stands (s := s.add d) h (by simpa using stands) hlater
      simpa [Nat.add_comm 1 n, Nat.add_assoc] using ih

/-- A sample opens no collections but those at the front, if these have enough to give. -/
theorem sampleInto_openings {front : List String} (part : front <+: collections) :
    ∀ {n : Nat} {s : Sample} {c : Chain} {given : List Document},
      Progress query collections before given c →
      c.ledger.openings <+: before.openings ++ front →
      given.length + n ≤ (streamOf query front).length →
        (c.sampleInto s n).2.ledger.openings <+: before.openings ++ front
  | 0, s, c, given, _, opened, _ => opened
  | n + 1, s, c, given, h, opened, enough => by
    have opened := h.openings_next? part (by omega)
    rw [sampleInto_succ]
    match hr : c.rest with
    | [] => exact opened
    | .error e :: items => exact opened
    | .ok d :: items =>
      refine sampleInto_openings part (h.next?_document hr).1 opened ?_
      rw [List.length_append, List.length_singleton]
      omega

/-- What a sample does to its chain is a run of calls. -/
theorem sampleInto_run : ∀ (n : Nat) (s : Sample) (c : Chain),
    ∃ calls : List Call, (c.sampleInto s n).2 = (c.run calls).2
  | 0, s, c => ⟨[], rfl⟩
  | n + 1, s, c => by
    rw [sampleInto_succ]
    match c.rest with
    | [] => exact ⟨[.read .iterate], rfl⟩
    | .error e :: _ => exact ⟨[.read .iterate], rfl⟩
    | .ok d :: _ =>
      obtain ⟨calls, h⟩ := sampleInto_run n (s.add d) c.next?.2
      exact ⟨.read .iterate :: calls, h⟩

/-! ## 3. The schema of a sample -/

/-- How a sample of at most `n` documents of collections fails: with the first error among the first
`n` items of their stream or, if all of these are documents, with the error of closing the cursor on
the collection that supplies the last. -/
inductive SampleFails (query : String → Except StoreError Rows) (collections : List String)
    (n : Nat) : CursorError → Prop
  | item {documents : List Document} {cause : CursorError} {later : List Item}
      (items : (streamOf query collections).take n = documents.map .ok ++ .error cause :: later) :
      SampleFails query collections n cause
  | close {documents : List Document} {name : String} {rows : Rows} {e : StoreError}
      (items : (streamOf query collections).take n = documents.map .ok)
      (last : Supplies query collections n name) (answer : query name = .ok rows)
      (failed : rows.close.1 = .error e) :
      SampleFails query collections n (.closeFailed name e)

/-- Items are documents up to the first error. -/
theorem documents_or_error : ∀ items : List Item,
    (∃ documents : List Document, items = documents.map .ok) ∨
      ∃ (documents : List Document) (cause : CursorError) (later : List Item),
        items = documents.map .ok ++ .error cause :: later
  | [] => .inl ⟨[], rfl⟩
  | .error cause :: items => .inr ⟨[], cause, items, rfl⟩
  | .ok d :: items => by
    obtain ⟨documents, h⟩ | ⟨documents, cause, later, h⟩ := documents_or_error items
    · exact .inl ⟨d :: documents, by rw [h]; rfl⟩
    · exact .inr ⟨d :: documents, cause, later, by rw [h]; rfl⟩

/-- An error among the first items goes before one in closing. -/
theorem inferSchema_of_error {cause : CursorError} {later : List Item}
    (items : (streamOf query collections).take n = documents.map .ok ++ .error cause :: later) :
    ((start query collections before).inferSchema n).1 = .error cause := by
  have h : ((start query collections before).sampleInto .empty n).1 = .error cause :=
    sampleInto_of_error items
  simp only [inferSchema, h]
  rfl

/-- Where the first items are documents, their schema is the answer if the chain can be closed. -/
theorem inferSchema_of_documents
    (items : (streamOf query collections).take n = documents.map .ok)
    {closed : Except CursorError Unit}
    (close : ((start query collections before).sampleInto .empty n).2.close.1 = closed) :
    ((start query collections before).inferSchema n).1 =
      closed.map fun _ => Schema.infer documents n := by
  have h : ((start query collections before).sampleInto .empty n).1 =
      .ok (documents.foldl Sample.add .empty) := sampleInto_of_documents items
  have hlength : documents.length ≤ n := by
    rw [← List.length_map (f := Except.ok (ε := CursorError)), ← items]
    exact List.length_take_le _ _
  simp only [inferSchema, h, close, Schema.infer, Sample.ofDocuments,
    List.take_of_length_le hlength]
  cases closed <;> rfl

/-- The error of closing is that of the collection which supplies the last item. -/
theorem close_sampleInto (items : (streamOf query collections).take n = documents.map .ok)
    (cause : CursorError) :
    ((start query collections before).sampleInto .empty n).2.close.1 = .error cause ↔
      CloseFails query collections n cause := by
  have stands := (sampleInto_stands (s := .empty) (progress_start query collections before)
    (stands_start query collections before) items).2
  rw [List.length_nil, Nat.zero_add] at stands
  exact close_of_stands stands cause

/-- **When a sample fails**, and with which error. -/
theorem inferSchema_error_iff {cause : CursorError} :
    ((start query collections before).inferSchema n).1 = .error cause ↔
      SampleFails query collections n cause := by
  constructor
  · intro h
    obtain ⟨documents, hitems⟩ | ⟨documents, e, later, hitems⟩ :=
      documents_or_error ((streamOf query collections).take n)
    · cases hc : ((start query collections before).sampleInto .empty n).2.close.1 with
      | ok u =>
        rw [inferSchema_of_documents hitems hc] at h
        cases h
      | error e =>
        rw [inferSchema_of_documents hitems hc] at h
        obtain rfl : e = cause := Except.error.inj h
        obtain ⟨name, rows, e, last, answer, failed, rfl⟩ := (close_sampleInto hitems _).mp hc
        exact .close hitems last answer failed
    · rw [inferSchema_of_error hitems] at h
      obtain rfl := Except.error.inj h
      exact .item hitems
  · intro h
    cases h with
    | item items => exact inferSchema_of_error items
    | close items last answer failed =>
      exact inferSchema_of_documents items
        ((close_sampleInto items _).mpr ⟨_, _, _, last, answer, failed, rfl⟩)

/-- A sample that does not fail gives the schema of the first items, which are documents. -/
theorem inferSchema_eq_ok {schema : Schema}
    (h : ((start query collections before).inferSchema n).1 = .ok schema) :
    ∃ documents : List Document, (streamOf query collections).take n = documents.map .ok ∧
      schema = Schema.infer documents n := by
  obtain ⟨documents, hitems⟩ | ⟨documents, e, later, hitems⟩ :=
    documents_or_error ((streamOf query collections).take n)
  · cases hc : ((start query collections before).sampleInto .empty n).2.close.1 with
    | ok u =>
      rw [inferSchema_of_documents hitems hc] at h
      exact ⟨documents, hitems, (Except.ok.inj h).symm⟩
    | error e =>
      rw [inferSchema_of_documents hitems hc] at h
      cases h
  · rw [inferSchema_of_error hitems] at h
    cases h

theorem inferSchema_ledger (c : Chain) (n : Nat) :
    (c.inferSchema n).2 = (c.sampleInto .empty n).2.close.2.ledger := rfl

/-- Closing opens nothing. -/
theorem openings_close (c : Chain) : c.close.2.ledger.openings = c.ledger.openings := by
  rw [close_chain]
  cases c.current <;> simp [exhaust]

theorem openings_of_visits {l : Ledger} {visits : List Visit}
    (h : l.history = before.history ++ visits.flatMap Visit.ended) :
    l.openings = before.openings ++ visits.map Visit.collection := by
  have hvisits := opened_record visits none
  simp only [record, visited, Option.toList_none, List.flatMap_nil, List.append_nil] at hvisits
  rw [Ledger.openings, h, List.filterMap_append, hvisits]
  rfl

/-- **What a sample opens.**  It visits a front part of the collections, one after another, and only
collections at the front if these have enough to give. -/
theorem inferSchema_visits (query : String → Except StoreError Rows) (collections : List String)
    (before : Ledger) (n : Nat) :
    ∃ visits : List Visit,
      ((start query collections before).inferSchema n).2.history =
        before.history ++ visits.flatMap Visit.ended ∧
      visits.map Visit.collection <+: collections ∧
      ∀ front, front <+: collections → n ≤ (streamOf query front).length →
        visits.map Visit.collection <+: front := by
  rw [inferSchema_ledger]
  obtain ⟨calls, hcalls⟩ := sampleInto_run n .empty (start query collections before)
  obtain ⟨visits, hhistory, hpart⟩ := close_visits query collections before calls
  rw [← hcalls] at hhistory
  refine ⟨visits, hhistory, hpart, fun front part enough => ?_⟩
  have hopenings := openings_of_visits hhistory
  rw [openings_close] at hopenings
  rw [← List.prefix_append_right_inj before.openings, ← hopenings]
  have enough : ([] : List Document).length + n ≤ (streamOf query front).length := by
    simpa using enough
  exact sampleInto_openings part (progress_start query collections before)
    (List.prefix_append _ _) enough

end DocTables.Chain
