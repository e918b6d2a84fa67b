/-
# The documents of a chain and where they are found

`findings` lists the documents that a chain has still to give, each with its collection; errors are
passed over.  For a chain that has not been started these are the documents of its collections one
after another (`foundIn`).

A move that does not fail keeps the list (`findings_move`).  So where `hasNext` answers that there
is a document, the document that it has fetched is the first of the list, and its collection is the
current one (`hasNext_true`); where it answers that there is none, the list is empty
(`hasNext_false`).
-/
import DocTables.Proofs.Chain.Stream

namespace DocTables

/-- A document and the collection in which it is found. -/
structure Found where
  collection : String
  document : Document

/-- The documents among rows. -/
def Rows.documentsOf (rows : List Row) : List Document := rows.filterMap Except.toOption

/-- The documents that a cursor has still to yield. -/
def Rows.documents (r : Rows) : List Document := documentsOf r.toList

/-- The documents that a query finds in a collection. -/
def foundIn (query : String → Except StoreError Rows) (collection : String) : List Found :=
  match query collection with
  | .ok rows => rows.documents.map (⟨collection, ·⟩)
  | .error _ => []

namespace Chain

/-- The documents that are still to come. -/
def findings (c : Chain) : List Found :=
  match c.current with
  | none => c.upcoming.flatMap (foundIn c.query)
  | some on =>
    (on.peeked.toList ++ on.rows.documents).map (⟨on.collection, ·⟩) ++
      c.upcoming.flatMap (foundIn c.query)

/-! ## 1. What rows hold -/

theorem documents_of_next {rows rows' : Rows} {d : Document}
    (h : rows.next = (some (.ok d), rows')) : rows.documents = d :: rows'.documents := by
  simp [Rows.documents, Rows.documentsOf, toList_of_next h, Except.toOption]

theorem documents_of_next_none {rows : Rows} (h : rows.next.1 = none) : rows.documents = [] := by
  simp [Rows.documents, Rows.documentsOf, toList_of_next_none h]

/-! ## 2. What moves keep -/

/-- **The step.**  As long as nothing fails, no document is lost. -/
theorem findings_move {c c' : Chain} (h : Move c none c') : c'.findings = c.findings := by
  cases h with
  | opened between next answer => simp [findings, between, next, foundIn, answer]
  | fetched here empty row => simp [findings, here, empty, documents_of_next row]
  | finished here empty row close => simp [findings, here, empty, documents_of_next_none row]

theorem findings_moves {c c' : Chain} {e : Option CursorError} (h : Moves c e c') :
    e = none → c'.findings = c.findings := by
  induction h with
  | done c => exact fun _ => rfl
  | failed move => exact fun h => absurd h (by simp)
  | more move _ ih => exact fun h => (ih h).trans (findings_move move)

/-- A document that is held is the first to come, and the current collection is its own. -/
theorem findings_of_holds {c : Chain} {d : Document} (h : c.Holds d) :
    ∃ collection, c.collection? = some collection ∧
      c.findings = ⟨collection, d⟩ :: c.take.2.findings := by
  obtain ⟨on, hon, hd⟩ := h
  exact ⟨on.collection, by simp [collection?, hon], by simp [findings, take, hon, hd]⟩

/-- Where `hasNext` answers that there is a document, it is the first to come. -/
theorem hasNext_true {c c' : Chain} (h : c.hasNext = (.ok true, c')) :
    ∃ source : Found, c'.collection? = some source.collection ∧
      c'.take.1 = some source.document ∧ c.findings = source :: c'.take.2.findings ∧
      c.rest = .ok source.document :: c'.take.2.rest := by
  have hmoves := c.hasNext_moves
  have hsettled := c.hasNext_settles
  rw [h] at hmoves hsettled
  obtain ⟨d, hd⟩ : ∃ d, c'.Holds d := hsettled
  obtain ⟨collection, hcollection, hfindings⟩ := findings_of_holds hd
  refine ⟨⟨collection, d⟩, hcollection, congrArg Prod.fst (take_of_holds hd), ?_, ?_⟩
  · rw [← hfindings]
    exact (findings_moves hmoves rfl).symm
  · exact (rest_of_hasNext h).trans (rest_of_holds hd)

/-- Where it answers that there is none, none is to come. -/
theorem hasNext_false {c c' : Chain} (h : c.hasNext = (.ok false, c')) : c.findings = [] := by
  have hmoves := c.hasNext_moves
  have hsettled := c.hasNext_settles
  rw [h] at hmoves hsettled
  obtain ⟨hcurrent, hupcoming⟩ : c'.Exhausted := hsettled
  rw [← findings_moves hmoves rfl]
  simp [findings, hcurrent, hupcoming]

end Chain

end DocTables
