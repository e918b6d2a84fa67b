/-
# The schema of a table and its sample

The schema that a catalog infers for a table is that of the first documents of its collections, one
collection after another, each read up to the configured limit; where the sample is no larger than
the limit, the limit does not show (`Catalog.Samples`).  The placeholders of the pattern follow as
columns of text.  `Catalog.table_sampled` says so, which errors occur instead, and that collections
which are not needed for the sample are not opened.
-/
import Mathlib
import DocTables.Catalog
import DocTables.Proofs.Chain.Sampling
import DocTables.Proofs.Store.Held
import DocTables.Store.Memory

namespace DocTables

/-! ## 1. The documents of a sample -/

/-- A limit on each part does not show in fewer items of the whole. -/
theorem take_flatMap_take {α β : Type} (f : α → List β) {limit : Nat} :
    ∀ {n : Nat}, n ≤ limit → ∀ parts : List α,
      (parts.flatMap fun part => (f part).take limit).take n = (parts.flatMap f).take n
  | n, _, [] => rfl
  | n, h, part :: parts => by
    have ih := take_flatMap_take f (Nat.le_trans (Nat.sub_le n (f part).length) h) parts
    rw [List.flatMap_cons, List.flatMap_cons, List.take_append, List.take_append, List.take_take,
      Nat.min_eq_left h, List.length_take]
    by_cases hlong : limit ≤ (f part).length
    · rw [Nat.min_eq_left hlong, Nat.sub_eq_zero_of_le h,
        Nat.sub_eq_zero_of_le (Nat.le_trans h hlong), List.take_zero, List.take_zero]
    · rw [Nat.min_eq_right (Nat.le_of_not_le hlong), ih]

/-- The documents that are held in a collection. -/
def documentsIn (held : String → String → Except StoreError Held) (database collection : String) :
    List Document :=
  match held database collection with
  | .ok h => Rows.documentsOf h.rows
  | .error _ => []

namespace Catalog

/-- How the collections of a table are opened for a sample. -/
def sampleQuery (c : Catalog) (database : String) : String → Except StoreError Rows :=
  fun collection => c.store.find database collection ⟨none, none, some c.config.sampleSize⟩

/-- The documents that a sample of collections can take in, one collection after another: what the
store finds of each up to the configured limit or, if it answers from what it holds, the first
documents that are held.  For a sample that is no larger than the limit these are as good as all. -/
inductive Samples (c : Catalog) (database : String) (collections : List String) :
    List Document → Prop
  | found : Samples c database collections
      ((collections.flatMap (foundIn (c.sampleQuery database))).map Found.document)
  | limited {held : String → String → Except StoreError Held} (serves : c.store.Serves held) :
      Samples c database collections <|
        collections.flatMap fun name => (documentsIn held database name).take c.config.sampleSize
  | unlimited {held : String → String → Except StoreError Held} (serves : c.store.Serves held)
      (small : c.sampleSize ≤ c.config.sampleSize) :
      Samples c database collections (collections.flatMap (documentsIn held database))

theorem foundIn_sampleQuery {c : Catalog} {held : String → String → Except StoreError Held}
    (serves : c.store.Serves held) (database collection : String) :
    (foundIn (c.sampleQuery database) collection).map Found.document =
      (documentsIn held database collection).take c.config.sampleSize := by
  unfold foundIn documentsIn sampleQuery
  rw [serves]
  cases held database collection with
  | error e => simp [Except.map]
  | ok h =>
    have hfirst := Rows.documentsOf_ofQuery_limit .all c.config.sampleSize h.rows
    have hall : (Rows.documentsOf h.rows).filter Query.all.selects = Rows.documentsOf h.rows :=
      List.filter_eq_self.mpr fun _ _ => rfl
    have hshape : Query.all.shape = id := rfl
    rw [hall, hshape, List.map_id] at hfirst
    rw [← hfirst]
    change List.map _ (List.map _ _) = _
    rw [List.map_map]
    exact List.map_id _

/-- Whichever way the documents are listed, the sample is the same. -/
theorem Samples.take_eq {c : Catalog} {database : String} {collections : List String}
    {documents : List Document} (samples : c.Samples database collections documents) :
    documents.take c.sampleSize =
      ((collections.flatMap (foundIn (c.sampleQuery database))).map Found.document).take
        c.sampleSize := by
  cases samples with
  | found => rfl
  | limited serves => simp only [List.map_flatMap, foundIn_sampleQuery serves]
  | unlimited serves small =>
    simp only [List.map_flatMap, foundIn_sampleQuery serves, take_flatMap_take _ small]

/-! ## 2. The schema -/

theorem supplementalSchema?_eq_none {c : Catalog} {database table : String}
    (unflagged : ∀ entry, c.supplemental database table = .ok (some entry) →
      entry.isFlagged = false) : c.supplementalSchema? database table = none := by
  unfold supplementalSchema?
  match h : c.supplemental database table with
  | .error e => rfl
  | .ok none => rfl
  | .ok (some entry) => simp [unflagged entry h]

theorem table_of_unflagged {c : Catalog} {database table : String} {collections : List String}
    (unflagged : c.supplementalSchema? database table = none)
    (resolved : c.patterns.resolve c.store database table = .ok collections) (ledger : Ledger) :
    let chain := Chain.start (c.sampleQuery database) collections ledger
    (c.table ledger database table).1 =
        ((chain.inferSchema c.sampleSize).1.mapError .cursor).map
          (fun schema => ⟨database, table, c.complete table schema, .inferred⟩) ∧
      (c.table ledger database table).2 = (chain.inferSchema c.sampleSize).2 := by
  intro chain
  unfold Catalog.table inferredSchema
  rw [unflagged, resolved]
  refine ⟨?_, rfl⟩
  change Except.map _ (((chain.inferSchema c.sampleSize).1.mapError _).map _) = _
  cases (chain.inferSchema c.sampleSize).1 <;> rfl

/-- The columns of text that stand for the placeholders of the pattern of a table, if it has one. -/
def placeholderColumns (c : Catalog) (table : String) : List Column :=
  match c.patterns.ofTable? table with
  | some p => p.placeholders.map fun name => ⟨name, .string, true⟩
  | none => []

theorem complete_eq (c : Catalog) (table : String) (schema : Schema) :
    c.complete table schema =
      ((c.placeholderColumns table).foldl Schema.upsert schema).withMetadata
        Schema.sourceTableKey table := by
  unfold complete placeholderColumns PatternSet.placeholders
  cases c.patterns.ofTable? table <;> rfl

/-- **The schema of a table is that of its first documents.**  For a table with collections and no
flagged entry in the other catalog:

* it fails exactly where a sample of its collections fails, with the error of the cursor;
* else the schema is that of the first documents of its collections, followed by the columns of the
  placeholders, and it names the table as it was asked for;
* what is opened is a front part of the collections, and no more of them than supply the sample. -/
theorem table_sampled (c : Catalog) (ledger : Ledger) {database table : String}
    {collections : List String}
    (unflagged : ∀ entry, c.supplemental database table = .ok (some entry) →
      entry.isFlagged = false)
    (resolved : c.patterns.resolve c.store database table = .ok collections) :
    (∀ e, (c.table ledger database table).1 = .error e ↔
      ∃ cause, e = .cursor cause ∧
        Chain.SampleFails (c.sampleQuery database) collections c.sampleSize cause) ∧
    ((¬∃ cause, Chain.SampleFails (c.sampleQuery database) collections c.sampleSize cause) →
      ∀ documents, c.Samples database collections documents →
        (c.table ledger database table).1 = .ok ⟨database, table,
          ((c.placeholderColumns table).foldl Schema.upsert
            (Schema.infer documents c.sampleSize)).withMetadata Schema.sourceTableKey table,
          .inferred⟩) ∧
    ∃ visits : List Chain.Visit,
      (c.table ledger database table).2.history =
        ledger.history ++ visits.flatMap Chain.Visit.ended ∧
      visits.map Chain.Visit.collection <+: collections ∧
      ∀ front, front <+: collections →
        c.sampleSize ≤ (Chain.streamOf (c.sampleQuery database) front).length →
          visits.map Chain.Visit.collection <+: front := by
  obtain ⟨hanswer, hledger⟩ :=
    table_of_unflagged (supplementalSchema?_eq_none unflagged) resolved ledger
  have herror (cause : CursorError) :
      ((Chain.start (c.sampleQuery database) collections ledger).inferSchema c.sampleSize).1 =
        .error cause ↔ Chain.SampleFails (c.sampleQuery database) collections c.sampleSize cause :=
    Chain.inferSchema_error_iff
  rw [hledger]
  refine ⟨?_, ?_, Chain.inferSchema_visits _ collections ledger c.sampleSize⟩
  · intro e
    rw [hanswer]
    cases hs : ((Chain.start (c.sampleQuery database) collections ledger).inferSchema
        c.sampleSize).1 with
    | error cause =>
      simp only [← herror, hs, Except.error.injEq, exists_eq_right']
      exact ⟨fun h => (Except.error.inj h).symm, fun h => congrArg Except.error h.symm⟩
    | ok schema =>
      simp only [← herror, hs, reduceCtorEq, and_false, exists_false, iff_false]
      intro h
      cases h
  · intro hok documents samples
    cases hs : ((Chain.start (c.sampleQuery database) collections ledger).inferSchema
        c.sampleSize).1 with
    | error cause => exact absurd ⟨cause, (herror cause).mp hs⟩ hok
    | ok schema =>
      obtain ⟨taken, htaken, rfl⟩ := Chain.inferSchema_eq_ok hs
      have hfound : taken = documents.take c.sampleSize := by
        rw [samples.take_eq]
        exact Chain.findings_of_take
          (c := Chain.start (c.sampleQuery database) collections ledger) htaken
      have hsame : Schema.infer taken c.sampleSize = Schema.infer documents c.sampleSize := by
        rw [Schema.infer, Schema.infer, hfound, List.take_take, Nat.min_self]
      rw [hanswer, hs, hsame, ← complete_eq]
      rfl

/-- A store with two collections, of which the second cannot be closed. -/
def pairStore : MemoryStore :=
  let first := MemoryStore.empty.insertMany "db" "a_1"
    [⟨[("v", .int32 1)]⟩, ⟨[("v", .bool true)]⟩]
  (first.insertMany "db" "a_2" [⟨[("w", .bool true)]⟩]).failCloseOn "a_2"

/-- The catalog of the table that they make up, with samples of one document. -/
def pairCatalog : Catalog where
  store := pairStore.toStore
  config := .default
  patterns := ⟨[.ofTemplate "(?-i)a_{{x}}"]⟩
  supplemental _ _ := .ok none
  sampleSize := 1

/-- A sample that its first collection supplies does not touch the second. -/
theorem table_sampled_pair :
    let table := "(?-i)a_x"
    (∀ entry, pairCatalog.supplemental "db" table = .ok (some entry) → entry.isFlagged = false) ∧
      pairCatalog.patterns.resolve pairCatalog.store "db" table = .ok ["a_1", "a_2"] ∧
      (pairCatalog.table .empty "db" table).1 = .ok ⟨"db", table,
        ⟨[⟨"v", .int32, true⟩, ⟨"x", .string, true⟩],
          Dictionary.empty.insert Schema.sourceTableKey table⟩, .inferred⟩ ∧
      ∃ visits : List Chain.Visit,
        (pairCatalog.table .empty "db" table).2.history = visits.flatMap Chain.Visit.ended ∧
        visits.map Chain.Visit.collection <+: ["a_1"] := by
  intro table
  have unflagged : ∀ entry, pairCatalog.supplemental "db" table = .ok (some entry) →
      entry.isFlagged = false := by
    intro entry h
    simp [pairCatalog] at h
  have resolved : pairCatalog.patterns.resolve pairCatalog.store "db" table =
      .ok ["a_1", "a_2"] := by cbv
  have supplied : Chain.Supplies (pairCatalog.sampleQuery "db") ["a_1", "a_2"] 1 "a_1" :=
    ⟨[], ["a_2"], rfl, by decide, by decide⟩
  obtain ⟨-, hok, visits, hhistory, -, hfront⟩ :=
    table_sampled pairCatalog .empty unflagged resolved
  refine ⟨unflagged, resolved, (hok ?_ _ .found).trans (by cbv), visits, hhistory,
    hfront ["a_1"] ⟨["a_2"], rfl⟩ (by decide)⟩
  rintro ⟨cause, @⟨documents, _, later, items⟩ | ⟨items, last, answer, failed⟩⟩
  · have hfirst : [.ok ⟨[("v", .int32 1)]⟩] =
      documents.map Except.ok ++ .error cause :: later := items
    cases documents <;> simp at hfirst
  · obtain rfl := supplied.unique last
    obtain rfl := Except.ok.inj answer
    cases failed

end Catalog

end DocTables
