/-
# Columns of placeholders

A column of text that is called like a placeholder of the table's pattern should have what that
pattern has captured for it in the name of the collection.  It has, if the pattern is the first that
the collection matches and no other captured placeholder has the same name up to ASCII case
(`scan_offers_captured`).

Texts are captured by the first pattern that the collection matches, though, and are looked up
without regard to their exact names, so that of two patterns for one collection the second gets
nothing for its placeholders (`captured_by_other_pattern`).
-/
import Mathlib
import DocTables.Proofs.Fields
import DocTables.Proofs.Scan.Accepting

namespace DocTables

variable {σ : Type}

/-! ## 1. Captured texts -/

/-- Every entry of a dictionary is found under its key. -/
theorem Dictionary.get?_of_mem (d : Dictionary) {e : String × String} (h : e ∈ d.entries) :
    d.get? e.1 = some e.2 := by
  have hdistinct : (⟨d.entries⟩ : Fields String).Distinct :=
    d.ascending.imp fun hlt => String.ne_of_lt hlt
  exact hdistinct.get?_eq_some h

namespace Scanner

/-- A text is found under its name unless another name is equal up to ASCII case. -/
theorem captured?_of_get? (s : Scanner) {captures : Dictionary} {name text : String}
    (h : captures.get? name = some text)
    (unique : s.ignoreCase = true → ∀ e ∈ captures.entries,
      Text.eqIgnoreCase e.1 name = true → e.1 = name) :
    s.captured? captures name = some text := by
  unfold captured?
  by_cases hcase : s.ignoreCase = true
  · rw [if_pos hcase]
    obtain ⟨before, after, hsplit, -⟩ := List.lookup_eq_some_iff.mp h
    have hsome : (captures.entries.find? fun e => Text.eqIgnoreCase e.1 name).isSome = true := by
      rw [List.find?_isSome]
      exact ⟨(name, text), by simp [hsplit], Text.eqIgnoreCase_self name⟩
    obtain ⟨e, he⟩ := Option.isSome_iff_exists.mp hsome
    have hmem := List.mem_of_find?_eq_some he
    have hname : e.1 = name := unique hcase e hmem (by simpa using List.find?_some he)
    rw [he, Option.map_some, ← captures.get?_of_mem hmem, hname, h]
  · rw [if_neg hcase, h]

/-- The column of a captured text. -/
theorem cell_eq_string_iff (s : Scanner) {table : String}
    (multi : s.patterns.isMultiTenant table = true) (collection : String) {column : Column}
    (hkind : column.kind = .string) (text : String) :
    (∀ d, s.cell table ⟨collection, d⟩ column = .string text) ↔
      s.captured? (s.patterns.captures collection) column.name = some text := by
  unfold cell standing
  simp only [multi, if_true, hkind]
  cases h : s.captured? (s.patterns.captures collection) column.name with
  | some captured => simp [coerce]
  | none =>
    refine ⟨fun hall => ?_, fun h => absurd h (by simp)⟩
    have hempty := hall .empty
    simp [Fields.empty, Fields.get?, coerce] at hempty

end Scanner

/-- **What the column of a placeholder has.**  Where the table's own pattern captures a text, all
rows of the collection have it in the column of the placeholder if and only if the look-up among the
texts of the first pattern that the collection matches finds the same.  It does if that is the
table's own pattern and no other name there is equal up to ASCII case. -/
theorem scan_offers_captured (s : Scanner) (request : ScanRequest) {p : Pattern}
    (htable : s.patterns.ofTable? request.source = some p) {collections : List String}
    (hres : s.patterns.resolve s.store request.database request.source = .ok collections)
    (sink : Sink σ) (state : σ) (ledger : Ledger) {collection placeholder text : String}
    (hcaptured : (p.captures collection).get? placeholder = some text) {column : Column}
    (hname : column.name = placeholder) (hkind : column.kind = .string) :
    (∀ sources, s.Gives request collections sources →
      s.Tells request collections sources (s.calls request sink state ledger)
        (s.run request sink state ledger).1) ∧
    ((∀ d, s.cell request.source ⟨collection, d⟩ column = .string text) ↔
      s.captured? (s.patterns.captures collection) placeholder = some text) ∧
    (s.patterns.ofCollection? collection = some p →
      (s.ignoreCase = true → ∀ e ∈ (p.captures collection).entries,
        Text.eqIgnoreCase e.1 placeholder = true → e.1 = placeholder) →
      ∀ d, s.cell request.source ⟨collection, d⟩ column = .string text) := by
  have multi : s.patterns.isMultiTenant request.source = true := by
    rw [PatternSet.isMultiTenant, htable, Option.isSome_some]
  subst hname
  have hiff := s.cell_eq_string_iff multi collection hkind text
  refine ⟨fun sources gives => Scanner.tells_of_gives hres gives sink state ledger, hiff,
    fun hfirst unique => hiff.mpr ?_⟩
  rw [PatternSet.captures, hfirst]
  exact s.captured?_of_get? hcaptured unique

/-! ## 2. Two patterns for one collection -/

/-- The pattern of the collections of one tenant.  Case counts in it. -/
def tenantPattern (placeholder : String) : Pattern :=
  .ofTemplate ("(?-i)a_\x7b\x7b" ++ placeholder ++ "\x7d\x7d")

/-- Two patterns that accept the same collections. -/
def overlapping : PatternSet := ⟨[tenantPattern "x", tenantPattern "y"]⟩

/-- A store with a collection that both accept, and fields that are called like their placeholders.
-/
def overlapStore : MemoryStore :=
  MemoryStore.empty.insertMany "db" "a_1" [.ofList [("x", .string "own"), ("y", .string "own")]]

/-- The scanner of these. -/
def overlapScanner (ignoreCase : Bool) : Scanner := ⟨overlapStore.toStore, overlapping, ignoreCase⟩

/-- The request for the placeholder of a pattern. -/
def overlapRequest (placeholder : String) : ScanRequest :=
  ⟨"db", "(?-i)a_" ++ placeholder, .ofColumns [.ofKind placeholder .string], .empty⟩

theorem ofTable?_overlapping_x : overlapping.ofTable? "(?-i)a_x" = some (tenantPattern "x") :=
  List.find?_cons_of_pos (by cbv)

theorem ofTable?_overlapping_y : overlapping.ofTable? "(?-i)a_y" = some (tenantPattern "y") := by
  have hx : Text.eqIgnoreCase (tenantPattern "x").canonicalName "(?-i)a_y" = false := by cbv
  have hy : Text.eqIgnoreCase (tenantPattern "y").canonicalName "(?-i)a_y" = true := by cbv
  exact (List.find?_cons_of_neg (by simp [hx])).trans (List.find?_cons_of_pos hy)

/-- Also within one pattern a placeholder can get the text of another: names are compared up to
case, and capitals come first. -/
example : (overlapScanner true).captured?
    ((Pattern.ofTemplate "(?-i){{a}}_{{A}}").captures "1_2") "a" = some "2" := by cbv

/-- **The second of two patterns gets nothing for its placeholder.**  Its table is found by it, the
collection is one of the table, and it captures a text there, but the rows have the field of the
document. -/
theorem captured_by_other_pattern :
    ∃ p : Pattern, overlapping.ofTable? (overlapRequest "y").source = some p ∧
      p.placeholders = ["y"] ∧ (p.captures "a_1").get? "y" = some "1" ∧
      (overlapRequest "y").schema.columns = [.ofKind "y" .string] ∧
      overlapping.resolve overlapStore.toStore "db" (overlapRequest "y").source = .ok ["a_1"] ∧
      ∀ ignoreCase, (overlapScanner ignoreCase).calls (overlapRequest "y") Sink.granting () .empty =
        [.polled true, .offered false "y" 0 (.string "own") (.ok true), .ended 0 true,
          .polled true] := by
  refine ⟨tenantPattern "y", ofTable?_overlapping_y, by cbv, by cbv, rfl, by cbv, ?_⟩
  intro ignoreCase
  cases ignoreCase
  · cbv
  · cbv

/-- The first of the two has its text, not the field. -/
theorem scan_offers_captured_first :
    overlapping.ofTable? (overlapRequest "x").source = some (tenantPattern "x") ∧
      overlapping.resolve overlapStore.toStore "db" (overlapRequest "x").source = .ok ["a_1"] ∧
      ((tenantPattern "x").captures "a_1").get? "x" = some "1" ∧
      ∀ d, (overlapScanner true).cell (overlapRequest "x").source ⟨"a_1", d⟩ (.ofKind "x" .string) =
        .string "1" := by
  have hres : overlapping.resolve overlapStore.toStore "db" (overlapRequest "x").source =
      .ok ["a_1"] := by cbv
  have hcaptured : ((tenantPattern "x").captures "a_1").get? "x" = some "1" := by cbv
  have hentries : ((tenantPattern "x").captures "a_1").entries = [("x", "1")] := by cbv
  have hfirst : overlapping.ofCollection? "a_1" = some (tenantPattern "x") :=
    List.find?_cons_of_pos (by cbv)
  refine ⟨ofTable?_overlapping_x, hres, hcaptured, ?_⟩
  refine (scan_offers_captured (overlapScanner true) (overlapRequest "x") ofTable?_overlapping_x
    hres Sink.granting () .empty hcaptured rfl rfl).2.2 hfirst fun _ e he _ => ?_
  obtain rfl : e = ("x", "1") := List.mem_singleton.mp (hentries ▸ he)
  rfl

end DocTables
