/-
# Tables and their collections

A table whose name is that of a pattern consists of the collections that the first such pattern
accepts, any other table of the collections of its name up to ASCII case (`PatternSet.Owns`).  A
table is found if and only if there is such a collection (`PatternSet.resolve_eq_ok_iff`).

What a catalog infers of a table it infers of these collections (`Catalog.table_inferred`).
-/
import DocTables.Catalog

namespace DocTables

namespace PatternSet

/-- Whether a collection is part of a table. -/
def Owns (patterns : PatternSet) (table collection : String) : Prop :=
  match patterns.ofTable? table with
  | some p => p.isMatch collection = true
  | none => Text.eqIgnoreCase collection table = true

theorem owns_iff (patterns : PatternSet) (table collection : String) :
    patterns.Owns table collection ↔
      (if patterns.isMultiTenant table then patterns.accepts table collection
        else Text.eqIgnoreCase collection table) = true := by
  unfold Owns isMultiTenant accepts
  cases patterns.ofTable? table <;> simp

instance (patterns : PatternSet) (table collection : String) :
    Decidable (patterns.Owns table collection) :=
  decidable_of_iff _ (patterns.owns_iff table collection).symm

/-- The collections of a table are those of the database that it owns, if there are any. -/
theorem resolve_eq (patterns : PatternSet) (store : Store) (database table : String) :
    patterns.resolve store database table =
      match store.collections database with
      | .error e => .error (.store e)
      | .ok names =>
        match names.filter (patterns.Owns table ·) with
        | [] => .error (.tableNotFound database table)
        | collections => .ok collections := by
  unfold resolve
  cases store.collections database with
  | error e => rfl
  | ok names =>
    have hfilter : names.filter (patterns.Owns table ·) = names.filter fun name =>
        if patterns.isMultiTenant table then patterns.accepts table name
        else Text.eqIgnoreCase name table :=
      List.filter_congr fun name _ => by simp [owns_iff]
    simp only [hfilter]
    rfl

/-- A table is found if and only if it owns a collection. -/
theorem resolve_eq_ok_iff {patterns : PatternSet} {store : Store} {database table : String}
    {collections : List String} :
    patterns.resolve store database table = .ok collections ↔
      collections ≠ [] ∧ ∃ names, store.collections database = .ok names ∧
        collections = names.filter (patterns.Owns table ·) := by
  rw [resolve_eq]
  cases store.collections database with
  | error e => simp
  | ok names =>
    simp only
    cases h : names.filter (patterns.Owns table ·) with
    | nil => simp [h]
    | cons c cs =>
      simp only [Except.ok.injEq, exists_eq_left', h]
      exact ⟨fun heq => ⟨heq ▸ List.cons_ne_nil c cs, heq.symm⟩, fun heq => heq.2.symm⟩

end PatternSet

namespace Catalog

/-- **What a catalog answers.**  It has the schema from the other catalog; or it does not find the
table; or it infers a schema from the collections of the table, unless a cursor fails. -/
theorem table_cases (c : Catalog) (ledger : Ledger) (database table : String) :
    (∃ schema, (c.table ledger database table).1 = .ok ⟨database, table, schema, .supplemental⟩) ∨
    (∃ e, c.patterns.resolve c.store database table = .error e ∧
      (c.table ledger database table).1 = .error e) ∨
    ∃ collections, c.patterns.resolve c.store database table = .ok collections ∧
      ((∃ cause, (c.table ledger database table).1 = .error (.cursor cause)) ∨
        ∃ schema, (c.table ledger database table).1 = .ok ⟨database, table, schema, .inferred⟩ ∧
          schema.sourceTable? = some table) := by
  unfold Catalog.table
  cases c.supplementalSchema? database table with
  | some schema => exact .inl ⟨schema, rfl⟩
  | none =>
    right
    unfold inferredSchema
    cases c.patterns.resolve c.store database table with
    | error e => exact .inl ⟨e, rfl, rfl⟩
    | ok collections =>
      refine .inr ⟨collections, rfl, ?_⟩
      simp only
      generalize Chain.inferSchema _ c.sampleSize = sampled
      obtain ⟨inferred, ledger⟩ := sampled
      cases inferred with
      | error cause => exact .inl ⟨cause, rfl⟩
      | ok schema => exact .inr ⟨_, rfl, Dictionary.get?_insert_self _ _ _⟩

/-- A schema that is inferred names its table, and the table has collections. -/
theorem table_inferred {c : Catalog} {ledger : Ledger} {database table : String} {info : TableInfo}
    (h : (c.table ledger database table).1 = .ok info) (inferred : info.source = .inferred) :
    info.database = database ∧ info.table = table ∧ info.schema.sourceTable? = some table ∧
      ∃ collections, c.patterns.resolve c.store database table = .ok collections := by
  obtain ⟨schema, hok⟩ | ⟨e, -, herror⟩ |
    ⟨collections, hres, ⟨cause, herror⟩ | ⟨schema, hok, hsource⟩⟩ :=
    c.table_cases ledger database table
  · obtain rfl := Except.ok.inj (hok.symm.trans h)
    cases inferred
  · simp [herror] at h
  · simp [herror] at h
  · obtain rfl := Except.ok.inj (hok.symm.trans h)
    exact ⟨rfl, rfl, hsource, collections, hres⟩

/-- A table that has collections can be opened, unless a cursor fails. -/
theorem table_of_resolve {c : Catalog} {database table : String} {collections : List String}
    (h : c.patterns.resolve c.store database table = .ok collections) {ledger : Ledger}
    {e : CatalogError} (herror : (c.table ledger database table).1 = .error e) :
    ∃ cause, e = .cursor cause := by
  obtain ⟨schema, hok⟩ | ⟨e', hres, -⟩ | ⟨-, -, ⟨cause, hcause⟩ | ⟨schema, hok, -⟩⟩ :=
    c.table_cases ledger database table
  · simp [hok] at herror
  · simp [hres] at h
  · exact ⟨cause, Except.error.inj (herror.symm.trans hcause)⟩
  · simp [hok] at herror

/-- The tables of a database are those of its collections. -/
theorem tables_eq {c : Catalog} {database : String} {names : List String}
    (h : c.store.collections database = .ok names) :
    c.tables database = .ok (names.map c.patterns.canonicalize).eraseDups := by
  unfold tables
  rw [h]
  rfl

end Catalog

end DocTables
