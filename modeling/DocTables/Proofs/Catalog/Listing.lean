/-
# Listed tables

A catalog lists every collection under the table of the first pattern that it matches, or under its
own name.  The way back goes from the name of a table to the first pattern of that name.  The two
agree on a collection if and only if this pattern, if there is one, accepts it (`TakesBack`); they
agree on all if the names of the patterns are distinct and no collection without a pattern is called
like a pattern (`takesBack_of_distinct`).

Where they agree, what is listed can be opened and is read (`listed_tables_open`).
-/
import Mathlib
import DocTables.Proofs.Catalog.Tables
import DocTables.Proofs.Scan.Account

namespace DocTables

variable {σ : Type}

namespace PatternSet

/-- The pattern of the table that a collection is listed under, if there is one, accepts it. -/
def TakesBack (patterns : PatternSet) (collection : String) : Prop :=
  ∀ p, patterns.ofTable? (patterns.canonicalize collection) = some p → p.isMatch collection = true

/-- No two patterns have tables of one name, up to ASCII case. -/
def NamesDistinct (patterns : PatternSet) : Prop :=
  patterns.patterns.Pairwise fun p q => Text.eqIgnoreCase p.canonicalName q.canonicalName = false

/-- The pattern that a collection matches has a name, so some pattern has the name of its table. -/
theorem canonicalize_of_ofTable?_eq_none {patterns : PatternSet} {collection : String}
    (h : patterns.ofTable? (patterns.canonicalize collection) = none) :
    patterns.canonicalize collection = collection := by
  cases hp : patterns.ofCollection? collection with
  | none => simp [canonicalize, hp]
  | some p =>
    have hname : patterns.canonicalize collection = p.canonicalName := by simp [canonicalize, hp]
    rw [hname] at h
    have hno := List.find?_eq_none.mp h p (List.mem_of_find?_eq_some hp)
    simp at hno

theorem owns_canonicalize_iff (patterns : PatternSet) (collection : String) :
    patterns.Owns (patterns.canonicalize collection) collection ↔
      patterns.TakesBack collection := by
  unfold Owns TakesBack
  cases h : patterns.ofTable? (patterns.canonicalize collection) with
  | none =>
    rw [canonicalize_of_ofTable?_eq_none h]
    simp [Text.eqIgnoreCase_self]
  | some p => simp

/-- Under distinct names, the pattern of a table is the one of its collections. -/
theorem ofTable?_canonicalName {patterns : PatternSet} (distinct : patterns.NamesDistinct)
    {p : Pattern} (h : p ∈ patterns.patterns) : patterns.ofTable? p.canonicalName = some p := by
  obtain ⟨before, after, hsplit⟩ := List.append_of_mem h
  refine List.find?_eq_some_iff_append.mpr
    ⟨Text.eqIgnoreCase_self p.canonicalName, before, after, hsplit, fun q hq => ?_⟩
  unfold NamesDistinct at distinct
  rw [hsplit, List.pairwise_append] at distinct
  simp [distinct.2.2 q hq p List.mem_cons_self]

theorem takesBack_of_distinct {patterns : PatternSet} (distinct : patterns.NamesDistinct)
    {collection : String}
    (free : patterns.ofCollection? collection = none → patterns.ofTable? collection = none) :
    patterns.TakesBack collection := by
  intro q hq
  cases hp : patterns.ofCollection? collection with
  | none => simp [canonicalize, hp, free hp] at hq
  | some p =>
    simp only [canonicalize, hp] at hq
    rw [ofTable?_canonicalName distinct (List.mem_of_find?_eq_some hp)] at hq
    obtain rfl := Option.some.inj hq
    simpa using List.find?_some hp

/-- A collection is found again under its table if and only if the table takes it back. -/
theorem mem_resolve_canonicalize_iff {patterns : PatternSet} {store : Store} {database : String}
    {names : List String} (hnames : store.collections database = .ok names) {collection : String}
    (h : collection ∈ names) :
    (∃ collections,
        patterns.resolve store database (patterns.canonicalize collection) = .ok collections ∧
          collection ∈ collections) ↔ patterns.TakesBack collection := by
  rw [← owns_canonicalize_iff]
  constructor
  · rintro ⟨collections, hres, hmem⟩
    obtain ⟨-, names, -, rfl⟩ := resolve_eq_ok_iff.mp hres
    simpa using (List.mem_filter.mp hmem).2
  · intro howns
    have hmem : collection ∈ names.filter (patterns.Owns (patterns.canonicalize collection) ·) :=
      List.mem_filter.mpr ⟨h, by simpa using howns⟩
    exact ⟨_, resolve_eq_ok_iff.mpr ⟨List.ne_nil_of_mem hmem, names, hnames, rfl⟩, hmem⟩

end PatternSet

/-- A table is made of collections, its schema is known and it can be scanned, unless a cursor
fails.  A scan that comes to a good end without having been stopped tells of all documents of the
collections. -/
structure Catalog.Opens (c : Catalog) (database table : String) (collections : List String) :
    Prop where
  resolved : c.patterns.resolve c.store database table = .ok collections
  known : ∀ (ledger : Ledger) (e : CatalogError),
    (c.table ledger database table).1 = .error e → ∃ cause, e = .cursor cause
  scanned : ∀ {σ : Type} (sink : Sink σ) (state : σ) (ledger : Ledger) (ignoreCase : Bool)
    (request : ScanRequest), request.database = database → request.source = table →
    let s := c.scanner ignoreCase
    let result := (s.run request sink state ledger).1
    let calls := s.calls request sink state ledger
    (∀ e, result ≠ .error (.catalog e)) ∧
      (result.toBool = true → .polled false ∉ calls →
        ∀ sources, s.Gives request collections sources →
          Told (s.cell table) request.schema.columns .empty sources calls result)

theorem Catalog.opens_of_resolve {c : Catalog} {database table : String} {collections : List String}
    (h : c.patterns.resolve c.store database table = .ok collections) :
    c.Opens database table collections where
  resolved := h
  known _ _ herror := table_of_resolve h herror
  scanned sink state ledger ignoreCase request hdatabase hsource := by
    subst hdatabase hsource
    refine ⟨(c.scanner ignoreCase).run_ne_catalog_error h sink state ledger,
      fun ok live sources gives => ?_⟩
    exact ((c.scanner ignoreCase).tells_of_gives h gives sink state ledger).told ok live

/-- **What is listed can be opened and is read.**  A collection is found again under its table if
and only if the table takes it back, and all are taken back if the names of patterns are distinct
and no collection without a pattern has such a name.  Where all are taken back, every listed table
opens with all collections that are listed under it. -/
theorem listed_tables_open (c : Catalog) {database : String} {names : List String}
    (hnames : c.store.collections database = .ok names) :
    (∀ collection ∈ names,
      (∃ collections,
        c.patterns.resolve c.store database (c.patterns.canonicalize collection) =
            .ok collections ∧ collection ∈ collections) ↔
        c.patterns.TakesBack collection) ∧
    (c.patterns.NamesDistinct →
      (∀ collection ∈ names, c.patterns.ofCollection? collection = none →
        c.patterns.ofTable? collection = none) →
      ∀ collection ∈ names, c.patterns.TakesBack collection) ∧
    ((∀ collection ∈ names, c.patterns.TakesBack collection) →
      ∃ tables, c.tables database = .ok tables ∧
        (∀ collection ∈ names, c.patterns.canonicalize collection ∈ tables) ∧
        ∀ table ∈ tables, ∃ collections, c.Opens database table collections ∧
          ∀ collection ∈ names, c.patterns.canonicalize collection = table →
            collection ∈ collections) := by
  refine ⟨fun collection h => PatternSet.mem_resolve_canonicalize_iff hnames h,
    fun distinct free collection h => PatternSet.takesBack_of_distinct distinct (free collection h),
    fun back => ⟨_, Catalog.tables_eq hnames, fun collection h => ?_, fun table htable => ?_⟩⟩
  · exact List.mem_eraseDups.mpr (List.mem_map_of_mem h)
  · obtain ⟨first, hfirst, rfl⟩ := List.mem_map.mp (List.mem_eraseDups.mp htable)
    obtain ⟨collections, hres, -⟩ :=
      (PatternSet.mem_resolve_canonicalize_iff hnames hfirst).mpr (back first hfirst)
    refine ⟨collections, Catalog.opens_of_resolve hres, fun collection h hsame => ?_⟩
    obtain ⟨others, hothers, hmem⟩ :=
      (PatternSet.mem_resolve_canonicalize_iff hnames h).mpr (back collection h)
    rw [hsame, hres] at hothers
    exact Except.ok.inj hothers ▸ hmem

/-! ## A collection with the name of a pattern that does not accept it -/

/-- The catalog of a database with these collections and one pattern. -/
def smallCatalog (collections : List String) (template : String) : Catalog where
  store := (collections.foldl (fun s name => s.insertMany "db" name []) MemoryStore.empty).toStore
  config := .default
  patterns := ⟨[.ofTemplate template]⟩
  supplemental _ _ := .ok none
  sampleSize := 10

/-- **A listed table may not be found.**  The collection `a+` does not match the pattern `a+`, so it
is listed under its own name; but the table of this name is that of the pattern. -/
theorem listed_table_not_found :
    (smallCatalog ["a+"] "a+").store.collections "db" = .ok ["a+"] ∧
      (smallCatalog ["a+"] "a+").tables "db" = .ok ["a+"] ∧
      (smallCatalog ["a+"] "a+").patterns.canonicalize "a+" = "a+" ∧
      (smallCatalog ["a+"] "a+").patterns.resolve (smallCatalog ["a+"] "a+").store "db" "a+" =
        .error (.tableNotFound "db" "a+") := by
  have hnames : (smallCatalog ["a+"] "a+").store.collections "db" = .ok ["a+"] := rfl
  have hlisted : (smallCatalog ["a+"] "a+").patterns.canonicalize "a+" = "a+" := by decide +kernel
  have howns : ¬ (smallCatalog ["a+"] "a+").patterns.Owns "a+" "a+" := by decide +kernel
  refine ⟨hnames, ?_, hlisted, ?_⟩
  · rw [Catalog.tables_eq hnames, List.map_singleton, hlisted]
    rfl
  · rw [PatternSet.resolve_eq, hnames]
    simp [howns]

/-- A database in which all collections are taken back. -/
def tenantCatalog : Catalog := smallCatalog ["a_1", "b"] "(?-i)a_{{x}}"

/-- At this catalog the theorem says that the table of the pattern opens with its collection. -/
theorem listed_tables_open_tenant :
    tenantCatalog.store.collections "db" = .ok ["a_1", "b"] ∧
      ∃ tables, tenantCatalog.tables "db" = .ok tables ∧ "(?-i)a_x" ∈ tables ∧
        ∃ collections, tenantCatalog.Opens "db" "(?-i)a_x" collections ∧ "a_1" ∈ collections := by
  have hnames : tenantCatalog.store.collections "db" = .ok ["a_1", "b"] := rfl
  have distinct : tenantCatalog.patterns.NamesDistinct := List.pairwise_singleton _ _
  have free : ∀ name ∈ ["a_1", "b"], tenantCatalog.patterns.isMultiTenant name = false := by
    refine List.forall_mem_cons.mpr ⟨by cbv, List.forall_mem_singleton.mpr (by cbv)⟩
  have hfirst : tenantCatalog.patterns.canonicalize "a_1" = "(?-i)a_x" := by cbv
  obtain ⟨-, hback, hopen⟩ := listed_tables_open tenantCatalog hnames
  obtain ⟨tables, htables, hlisted, hopens⟩ := hopen <| hback distinct fun name h _ => by
    simpa [PatternSet.isMultiTenant] using free name h
  have hmem : "(?-i)a_x" ∈ tables := hfirst ▸ hlisted "a_1" (by simp)
  obtain ⟨collections, hcollections, hall⟩ := hopens "(?-i)a_x" hmem
  exact ⟨hnames, tables, htables, hmem, collections, hcollections, hall "a_1" (by simp) hfirst⟩

end DocTables
