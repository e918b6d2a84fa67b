/-
# Samples of parts put together

Well-formed shapes are a semilattice under `merge`, but for the order of fields: `merge` is
associative and idempotent exactly, with nothing observed as its identity and text as its top, and
commutative up to that order (`reordered_merge_comm`).

So a fold of `merge` may be cut anywhere (`foldl_merge_eq`), and documents may be sampled in parts:
what all of them show of a field is what the parts show, merged (`under_ofDocuments_append`).
-/
import DocTables.Proofs.Inference.Order

namespace DocTables

namespace Shape

variable {a b : Shape}

/-- **`merge` is commutative up to the order of fields.**  Either way of merging covers both parts,
and so the other way. -/
theorem reordered_merge_comm (ha : WellFormed a) (hb : WellFormed b) :
    Reordered (merge a b) (merge b a) := by
  have hab : WellFormed (merge a b) := ha.merge hb
  have hba : WellFormed (merge b a) := hb.merge ha
  refine reordered_of_covers hab hba ?_ ?_
  · exact (covers_merge_iff hab hb ha).mpr ⟨merge_merge_right ha hb, merge_merge_left ha hb⟩
  · exact (covers_merge_iff hba ha hb).mpr ⟨merge_merge_right hb ha, merge_merge_left hb ha⟩

/-- A fold that starts with a shape merges it with the fold of the rest. -/
theorem foldl_merge_eq : ∀ {ts : List Shape} {start : Shape}, WellFormed start →
    (∀ t ∈ ts, WellFormed t) → ts.foldl merge start = merge start (ts.foldl merge .unobserved)
  | [], start, _, _ => (merge_unobserved start).symm
  | t :: ts, start, hs, h => by
    obtain ⟨ht, hts⟩ := List.forall_mem_cons.mp h
    have hfold : WellFormed (ts.foldl merge .unobserved) := wellFormed_foldl .unobserved hts
    calc (t :: ts).foldl merge start
        = merge (merge start t) (ts.foldl merge .unobserved) := foldl_merge_eq (hs.merge ht) hts
      _ = merge start (merge t (ts.foldl merge .unobserved)) := merge_assoc hs ht hfold
      _ = merge start ((t :: ts).foldl merge .unobserved) := by
        rw [List.foldl_cons, unobserved_merge, foldl_merge_eq ht hts]

end Shape

namespace Sample

open Shape

theorem wellFormed_of_mem_observed {ds : List Document} {name : String} {t : Shape}
    (h : t ∈ observed ds name) : WellFormed t := by
  obtain ⟨d, -, v, -, rfl⟩ := mem_observed.mp h
  exact wellFormed_ofValue v

theorem observed_append (ds es : List Document) (name : String) :
    observed (ds ++ es) name = observed ds name ++ observed es name := by
  simp [observed]

/-- What two parts of the documents show of a name is merged in the sample of all. -/
theorem under_ofDocuments_append (ds es : List Document) (name : String) :
    under (ofDocuments (ds ++ es)).fields name =
      merge (under (ofDocuments ds).fields name) (under (ofDocuments es).fields name) := by
  have hds : WellFormed ((observed ds name).foldl merge .unobserved) :=
    wellFormed_foldl .unobserved fun t ht => wellFormed_of_mem_observed ht
  rw [under_ofDocuments, under_ofDocuments, under_ofDocuments, observed_append, List.foldl_append,
    foldl_merge_eq hds fun t ht => wellFormed_of_mem_observed ht]

/-- **Shapes are a semilattice up to the order of fields, and samples are merged by it.**  On
well-formed shapes, which all shapes of values are, `merge` is closed, associative, commutative up to
the order of fields, and idempotent; nothing observed is its identity, and text covers everything.
So a sample of documents holds of every name what the samples of two parts of the documents hold,
merged; a name that is not there counts as not observed. -/
theorem merge_of_parts :
    (∀ a b, WellFormed a → WellFormed b → WellFormed (merge a b)) ∧
    (∀ a b c, WellFormed a → WellFormed b → WellFormed c →
      merge (merge a b) c = merge a (merge b c)) ∧
    (∀ a b, WellFormed a → WellFormed b → Reordered (merge a b) (merge b a)) ∧
    (∀ a, WellFormed a → merge a a = a) ∧
    (∀ a, merge .unobserved a = a ∧ merge a .unobserved = a) ∧
    (∀ a, merge (.scalar .string) a = .scalar .string ∧ merge a (.scalar .string) = .scalar .string) ∧
    (∀ v, WellFormed (ofValue v)) ∧
    ∀ ds es name, under (ofDocuments (ds ++ es)).fields name =
      merge (under (ofDocuments ds).fields name) (under (ofDocuments es).fields name) :=
  ⟨fun _ _ ha hb => ha.merge hb, fun _ _ _ ha hb hc => merge_assoc ha hb hc,
    fun _ _ ha hb => reordered_merge_comm ha hb, fun _ ha => merge_self ha,
    fun a => ⟨unobserved_merge a, merge_unobserved a⟩, fun a => ⟨string_merge a, merge_string a⟩,
    wellFormed_ofValue, under_ofDocuments_append⟩

/-- Structs with some names in common, in another order: the first decides on the order of names, and
a field that only one of them has observed is taken from it. -/
theorem merge_of_parts_overlapping :
    let a : Shape := .struct ⟨[("x", .list .unobserved), ("y", .scalar .int32)]⟩
    let b : Shape := .struct ⟨[("z", .scalar .boolean), ("y", .scalar .float32)]⟩
    let c : Shape := .struct ⟨[("x", .list (.scalar .int64)), ("z", .unobserved)]⟩
    let all : Shape := .struct
      ⟨[("x", .list (.scalar .int64)), ("y", .scalar .float64), ("z", .scalar .boolean)]⟩
    WellFormed a ∧ WellFormed b ∧ WellFormed c ∧ merge a (merge b c) = all ∧ merge all all = all ∧
      WellFormed (merge a b) ∧
      Reordered (.struct
          ⟨[("x", .list .unobserved), ("y", .scalar .float64), ("z", .scalar .boolean)]⟩)
        (.struct ⟨[("z", .scalar .boolean), ("y", .scalar .float64), ("x", .list .unobserved)]⟩) := by
  intro a b c all
  obtain ⟨closed, assoc, comm, idem, -⟩ := merge_of_parts
  have pair {n m : String} {s t : Shape} (hne : n ≠ m) (hs : WellFormed s) (ht : WellFormed t) :
      WellFormed (.struct ⟨[(n, s), (m, t)]⟩) := by
    refine .struct (Fields.distinct_cons.mpr ⟨?_, List.nodup_cons.mpr ⟨List.not_mem_nil, .nil⟩⟩) ?_
    · exact fun hmem => hne (List.mem_singleton.mp hmem)
    · exact List.forall_mem_cons.mpr ⟨hs, List.forall_mem_singleton.mpr ht⟩
  have ha : WellFormed a := pair (by decide) (.list .unobserved) (.scalar _)
  have hb : WellFormed b := pair (by decide) (.scalar _) (.scalar _)
  have hc : WellFormed c := pair (by decide) (.list (.scalar _)) .unobserved
  have hall : merge (merge a b) c = all := rfl
  have hclosed : WellFormed all := hall ▸ closed _ _ (closed a b ha hb) hc
  exact ⟨ha, hb, hc, by rw [← assoc a b c ha hb hc, hall], idem all hclosed, closed a b ha hb,
    comm a b ha hb⟩

end Sample

end DocTables
