/-
# What stores hold

A store answers a query from the rows that it holds in the collection (`Store.Serves`): it leaves
out the documents that the filter does not let pass and cuts the others to the projection.  Stores
in memory and stores of JSON lines do so (`MemoryStore.serves`, `JsonLinesStore.serves`).

A projection to the columns of a schema cannot be seen by one who looks these columns up, whether
under their exact names (`get?_project`) or ignoring ASCII case (`getIgnoreCase?_project`).
-/
import DocTables.Proofs.Chain.Findings
import DocTables.Proofs.Fields
import DocTables.Schema
import DocTables.Store.JsonLines
import DocTables.Store.Memory

namespace DocTables

/-! ## 1. Stores that answer from what they hold -/

/-- What a store holds in a collection. -/
structure Held where
  rows : List Row
  /-- How closing a cursor on the collection fails, if it does. -/
  closeFailure : Option StoreError

/-- Every query is answered from what the store holds. -/
def Store.Serves (store : Store) (held : String → String → Except StoreError Held) : Prop :=
  ∀ database collection q, store.find database collection q =
    (held database collection).map fun h => .ofList (Rows.ofQuery q h.rows) h.closeFailure

namespace MemoryStore

/-- The documents of a collection. -/
def held (s : MemoryStore) (database collection : String) : Except StoreError Held := do
  match (← s.database database).get? collection with
  | some documents =>
    return ⟨documents.map .ok,
      if s.failingClose.contains collection then some (.closeFailed collection) else none⟩
  | none => throw (.collectionNotFound database collection)

theorem map_select_eq (q : Query) (documents : List Document) :
    (select q documents).map .ok = Rows.ofQuery q (documents.map .ok) := by
  induction documents generalizing q with
  | nil => rw [select_nil, List.map_nil, Rows.ofQuery_nil]
  | cons d documents ih =>
    by_cases hend : q.limit = some 0
    · rw [select_of_limit_zero hend, Rows.ofQuery_of_limit_zero hend, List.map_nil]
    · by_cases hd : q.selects d = true
      · rw [select_selected hend hd, List.map_cons, List.map_cons, ih,
          Rows.ofQuery_selected hend hd]
      · rw [select_unselected hd, List.map_cons, ih, Rows.ofQuery_unselected hd]

theorem serves (s : MemoryStore) : s.toStore.Serves s.held := by
  intro database collection q
  simp only [toStore, find, held]
  cases s.database database with
  | error e => rfl
  | ok collections =>
    simp only [bind, Except.bind, map_select_eq]
    cases collections.get? collection <;> rfl

end MemoryStore

namespace JsonLinesStore

/-- The rows of a collection file. -/
def held (s : JsonLinesStore) (database collection : String) : Except StoreError Held := do
  let path := Path.join (← s.databasePath database) (collection ++ "." ++ extension)
  match s.files.read? path with
  | some bytes => return ⟨rows path 0 (lines bytes), none⟩
  | none => throw (.collectionNotFound database collection)

namespace LineCursor

variable {path : String} {q : Query}

theorem toList_of_next?_none {c : LineCursor} (h : c.next? path q = none) :
    c.toList path q = [] := by
  rw [toList]
  split
  · rfl
  · rename_i h'
    simp [h] at h'

theorem toList_of_next?_some {c c' : LineCursor} {row : Row}
    (h : c.next? path q = some (row, c')) : c.toList path q = row :: c'.toList path q := by
  rw [toList]
  split
  · rename_i h'
    simp [h] at h'
  · rename_i h'
    obtain ⟨rfl, rfl⟩ := Prod.mk.inj (Option.some.inj (h.symm.trans h'))
    rfl

theorem toList_congr {c c' : LineCursor} (h : c.next? path q = c'.next? path q) :
    c.toList path q = c'.toList path q := by
  rw [toList, toList, h]

/-- **Reading on line by line and counting comes to the same as selecting first.**  What a cursor
yields is what the query, less the documents that have been handed out, makes of the rows to come.
-/
theorem toList_eq (path : String) (q : Query) (lines : List (List UInt8)) (count returned : Nat) :
    toList path q ⟨lines, count, returned⟩ =
      Rows.ofQuery (q.after returned) (rows path count lines) := by
  induction lines generalizing count returned with
  | nil =>
    rw [rows, Rows.ofQuery_nil, toList_of_next?_none]
    unfold next? advance
    split <;> rfl
  | cons line rest ih =>
    by_cases hend : (q.after returned).limit = some 0
    · rw [Rows.ofQuery_of_limit_zero hend, toList_of_next?_none]
      rw [next?, if_pos (Query.limit_after_eq_zero_iff.mp hend)]
    · -- The limit does not change as long as lines are passed over.
      have hnext (lines : List (List UInt8)) (n : Nat) :
          next? path q ⟨lines, n, returned⟩ = advance path q n returned lines := by
        rw [next?, if_neg fun h => hend (Query.limit_after_eq_zero_iff.mpr h)]
      have hstep := hnext (line :: rest) count
      rw [advance] at hstep
      rw [rows]
      cases htext : String.fromUTF8? ⟨line.toArray⟩ with
      | none =>
        simp only [htext] at hstep ⊢
        rw [toList_of_next?_some hstep, ih, Rows.ofQuery_error hend]
      | some text =>
        simp only [htext] at hstep ⊢
        by_cases hblank : Text.isBlankText text = true
        · rw [if_pos hblank] at hstep ⊢
          rw [← ih, toList_congr (hstep.trans (hnext rest (count + 1)).symm)]
        · rw [if_neg hblank] at hstep ⊢
          cases hrow : decode path (count + 1) text with
          | error e =>
            simp only [hrow] at hstep
            rw [toList_of_next?_some hstep, ih, Rows.ofQuery_error hend]
          | ok d =>
            simp only [hrow] at hstep
            by_cases hd : q.selects d = true
            · rw [if_pos hd] at hstep
              rw [toList_of_next?_some hstep, ih, Rows.ofQuery_selected hend hd,
                Query.after_after, Query.shape_after]
            · rw [if_neg hd] at hstep
              have hd' : ¬(q.after returned).selects d = true := hd
              rw [Rows.ofQuery_unselected hd', ← ih,
                toList_congr (hstep.trans (hnext rest (count + 1)).symm)]

end LineCursor

theorem serves (s : JsonLinesStore) : s.toStore.Serves s.held := by
  intro database collection q
  simp only [toStore, find, held]
  cases s.databasePath database with
  | error e => rfl
  | ok path =>
    simp only [bind, Except.bind, LineCursor.toList_eq, Query.after_zero]
    cases s.files.read? (Path.join path (collection ++ "." ++ extension)) <;> rfl

end JsonLinesStore

/-! ## 2. What a query makes of documents -/

theorem Rows.documentsOf_map (f : Document → Document) (rows : List Row) :
    documentsOf (rows.map (·.map f)) = (documentsOf rows).map f := by
  simp only [documentsOf, List.filterMap_map, List.map_filterMap]
  congr 1
  funext row
  cases row <;> rfl

/-- Without a limit, a query gives the documents that its filter lets pass, cut to its projection.
-/
theorem Rows.documentsOf_ofQuery {q : Query} (h : q.limit = none) (rows : List Row) :
    documentsOf (ofQuery q rows) = ((documentsOf rows).filter q.selects).map q.shape := by
  rw [ofQuery, documentsOf_map, h, upTo]
  congr 1
  induction rows with
  | nil => rfl
  | cons row rows ih =>
    cases row with
    | error e => exact ih
    | ok d =>
      change documentsOf (List.filter _ (.ok d :: rows)) = (d :: documentsOf rows).filter q.selects
      by_cases hd : q.selects d = true
      · rw [List.filter_cons_of_pos hd, ← ih]
        exact congrArg documentsOf (List.filter_cons_of_pos hd)
      · rw [List.filter_cons_of_neg hd, ← ih]
        exact congrArg documentsOf (List.filter_cons_of_neg hd)

/-- A limit cuts the documents; the rows that cannot be read do not count. -/
theorem Rows.documentsOf_upTo : ∀ (n : Nat) (rows : List Row),
    documentsOf (upTo (some n) rows) = (documentsOf rows).take n
  | 0, rows => by simp [upTo, documentsOf]
  | n + 1, [] => rfl
  | n + 1, .error e :: rows => documentsOf_upTo (n + 1) rows
  | n + 1, .ok d :: rows => congrArg (d :: ·) (documentsOf_upTo n rows)

/-- A query with a limit gives the first documents of those that it gives without. -/
theorem Rows.documentsOf_ofQuery_limit (q : Query) (n : Nat) (rows : List Row) :
    documentsOf (ofQuery { q with limit := some n } rows) =
      (((documentsOf rows).filter q.selects).map q.shape).take n := by
  have hall := documentsOf_ofQuery (q := { q with limit := none }) rfl rows
  rw [ofQuery, documentsOf_map, upTo] at hall
  rw [ofQuery, documentsOf_map, documentsOf_upTo, List.map_take]
  exact congrArg (List.take n) hall

/-! ## 3. What a projection leaves in sight -/

namespace Fields

variable {α : Type}

/-- Leaving out fields of other names changes nothing for a name, also where names are compared
ignoring ASCII case. -/
theorem getIgnoreCase?_filter {keep : String → Bool} {key : String}
    (h : ∀ name, Text.eqIgnoreCase name key = true → keep name = true) (f : Fields α) :
    (⟨f.entries.filter fun e => keep e.1⟩ : Fields α).getIgnoreCase? key =
      f.getIgnoreCase? key := by
  have hfind : (f.entries.filter fun e => keep e.1).find? (fun e => Text.eqIgnoreCase e.1 key) =
      f.entries.find? fun e => Text.eqIgnoreCase e.1 key := by
    rw [List.find?_filter]
    congr 1
    funext e
    cases he : Text.eqIgnoreCase e.1 key with
    | false => simp
    | true => simp [h e.1 he]
  unfold getIgnoreCase?
  rw [get?_filter (h key (Text.eqIgnoreCase_self key)), hfind]

/-- One value under many names. -/
theorem get?_foldl_insert (v : α) (key : String) : ∀ (names : List String) (f : Fields α),
    ((names.map fun name => (name, v)).foldl (fun f e => f.insert e.1 e.2) f).get? key =
      if key ∈ names then some v else f.get? key
  | [], f => by simp
  | name :: names, f => by
    rw [List.map_cons, List.foldl_cons, get?_foldl_insert v key names]
    by_cases hk : key = name
    · subst hk
      simp
    · rw [get?_insert_of_ne f hk]
      simp [hk]

end Fields

theorem Schema.get?_projection (s : Schema) {name : String} (h : name ∈ s.names) :
    s.projection.get? name = some (.int32 1) := by
  rw [projection, Fields.ofList, Fields.get?_foldl_insert, if_pos h]

/-- A projection to the columns of a schema keeps every field that has the name of a column,
ignoring ASCII case. -/
theorem Schema.keeps_projection (s : Schema) {name column : String} (h : column ∈ s.names)
    (heq : Text.eqIgnoreCase name column = true) : Query.keeps s.projection name = true := by
  have hmem := Fields.mem_entries_of_get? (s.get?_projection h)
  rw [Query.keeps, Bool.or_eq_true]
  left
  refine List.any_eq_true.mpr ⟨(column, .int32 1), hmem, ?_⟩
  rw [Text.eqIgnoreCase_comm] at heq
  simpa [Query.isMarked] using heq

theorem Query.get?_project (s : Schema) (d : Document) {column : String} (h : column ∈ s.names) :
    (project s.projection d).get? column = d.get? column := by
  unfold project
  split
  · exact Fields.get?_filter (s.keeps_projection h (Text.eqIgnoreCase_self column)) d
  · rfl

theorem Query.getIgnoreCase?_project (s : Schema) (d : Document) {column : String}
    (h : column ∈ s.names) :
    (project s.projection d).getIgnoreCase? column = d.getIgnoreCase? column := by
  unfold project
  split
  · exact Fields.getIgnoreCase?_filter (fun _ he => s.keeps_projection h he) d
  · rfl

end DocTables
