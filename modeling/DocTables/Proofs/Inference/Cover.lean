/-
# The shape of a sampled field is the least that covers its values

A shape covers another if merging that in does not change it.  What covers a merge is what covers
both parts (`covers_merge_iff`), so the merge of many shapes is the least shape that covers them all
(`covers_foldl_iff`).

A sample holds under every name the merge of the shapes of all values that the documents have there
(`under_ofDocuments`).  Hence what covers all of the values covers what is held, and what is held
covers all of the values.
-/
import DocTables.Inference.Sample
import DocTables.Proofs.Inference.Merge

namespace DocTables

namespace Shape

/-! ## 1. Covering -/

/-- Merging the second shape into the first does not change it. -/
def Covers (u t : Shape) : Prop := merge u t = u

theorem covers_self {t : Shape} (ht : WellFormed t) : Covers t t := merge_self ht

theorem covers_unobserved (u : Shape) : Covers u .unobserved := merge_unobserved u

/-- **What covers a merge is what covers both parts.** -/
theorem covers_merge_iff {u a b : Shape} (hu : WellFormed u) (ha : WellFormed a)
    (hb : WellFormed b) : Covers u (merge a b) ↔ Covers u a ∧ Covers u b := by
  unfold Covers
  constructor
  · intro h
    constructor
    · calc merge u a
          = merge (merge u (merge a b)) a := by rw [h]
        _ = merge u (merge (merge a b) a) := merge_assoc hu (ha.merge hb) ha
        _ = merge u (merge a b) := by rw [merge_merge_left ha hb]
        _ = u := h
    · calc merge u b
          = merge (merge u (merge a b)) b := by rw [h]
        _ = merge u (merge (merge a b) b) := merge_assoc hu (ha.merge hb) hb
        _ = merge u (merge a b) := by rw [merge_merge_right ha hb]
        _ = u := h
  · rintro ⟨h1, h2⟩
    rw [← merge_assoc hu ha hb, h1, h2]

/-- The merge of shapes is the least that covers them. -/
theorem covers_foldl_iff {u : Shape} (hu : WellFormed u) :
    ∀ {ts : List Shape} {start : Shape}, WellFormed start → (∀ t ∈ ts, WellFormed t) →
      (Covers u (ts.foldl merge start) ↔ Covers u start ∧ ∀ t ∈ ts, Covers u t)
  | [], _, _, _ => by simp
  | t :: ts, start, hs, h => by
    have ht : WellFormed t := h t List.mem_cons_self
    have hts : ∀ v ∈ ts, WellFormed v := fun v hv => h v (List.mem_cons_of_mem t hv)
    rw [List.foldl_cons, covers_foldl_iff hu (hs.merge ht) hts, covers_merge_iff hu hs ht,
      List.forall_mem_cons, and_assoc]

/-- Shapes that are covered are merged in without effect. -/
theorem foldl_eq_of_covers {u : Shape} :
    ∀ {ts : List Shape}, (∀ t ∈ ts, Covers u t) → ts.foldl merge u = u
  | [], _ => rfl
  | t :: ts, h => by
    rw [List.foldl_cons, h t List.mem_cons_self]
    exact foldl_eq_of_covers fun v hv => h v (List.mem_cons_of_mem t hv)

/-- Fields are united without effect with fields that they have and cover. -/
theorem unite_eq_of_covers {f g : Fields Shape} (hf : f.Distinct)
    (hk : ∀ name ∈ g.keys, name ∈ f.keys)
    (hc : ∀ name, ∀ t ∈ g.values name, Covers (under f name) t) : unite f g = f := by
  refine (ext_under hf ?_ fun name => ?_).symm
  · clear hc
    obtain ⟨es⟩ := g
    induction es generalizing f with
    | nil => rfl
    | cons e es ih =>
      obtain ⟨key, t⟩ := e
      have hkey : key ∈ f.keys := hk key (by simp [Fields.keys_cons])
      have hkeys : (mergeField f key t).keys = f.keys := by rw [keys_mergeField, if_pos hkey]
      rw [unite_cons, ← ih (distinct_mergeField hf key t), hkeys]
      intro name hm
      rw [hkeys]
      exact hk name (by simp [Fields.keys_cons, hm])
  · rw [under_unite, foldl_eq_of_covers (hc name)]

/-! ## 2. The shapes of values -/

/-- The shapes of the fields of a document. -/
def ofFields (d : Document) : Fields Shape := ⟨ofEntries d.entries⟩

theorem ofEntries_eq_map : ∀ es : List (String × Value),
    ofEntries es = es.map fun e => (e.1, ofValue e.2)
  | [] => rfl
  | (name, v) :: es => by rw [ofEntries, ofEntries_eq_map es, List.map_cons]

theorem keys_ofFields (d : Document) : (ofFields d).keys = d.keys := by
  simp [ofFields, Fields.keys, ofEntries_eq_map]

theorem values_ofFields (d : Document) (name : String) :
    (ofFields d).values name = (d.values name).map ofValue := by
  simp only [ofFields, Fields.values, ofEntries_eq_map, List.filterMap_map, List.map_filterMap]
  congr 1
  funext e
  by_cases h : e.1 = name <;> simp [h]

mutual

/-- **The shape of a value is well-formed.** -/
theorem wellFormed_ofValue : ∀ v : Value, WellFormed (ofValue v)
  | .null => .unobserved
  | .bool _ => .scalar _
  | .int32 _ => .scalar _
  | .int64 _ => .scalar _
  | .float32 _ => .scalar _
  | .float64 _ => .scalar _
  | .decimal _ => .scalar _
  | .string _ => .scalar _
  | .objectId _ => .scalar _
  | .timestamp _ => .scalar _
  | .dateTime _ => .scalar _
  | .binary _ => .scalar _
  | .array items => .list (wellFormed_mergeItems items .unobserved)
  | .document ⟨entries⟩ =>
    wellFormed_struct_iff.mpr (fieldsWellFormed_empty.unite (g := ⟨ofEntries entries⟩)
      (wellFormed_ofEntries entries))

theorem wellFormed_mergeItems : ∀ (items : List Value) {t : Shape}, WellFormed t →
    WellFormed (mergeItems t items)
  | [], _, ht => ht
  | v :: items, _, ht => wellFormed_mergeItems items (ht.merge (wellFormed_ofValue v))

theorem wellFormed_ofEntries : ∀ es : List (String × Value),
    ∀ e ∈ ofEntries es, WellFormed e.2
  | [], _, he => absurd he (by simp [ofEntries])
  | (name, v) :: es, e, he => by
    rcases List.mem_cons.mp he with rfl | he
    · exact wellFormed_ofValue v
    · exact wellFormed_ofEntries es e he

end

/-- The least well-formed shape that covers the values of a name in documents. -/
structure LeastCover (ds : List Document) (name : String) (t : Shape) : Prop where
  wellFormed : WellFormed t
  covers : ∀ d ∈ ds, ∀ v, (name, v) ∈ d.entries → t.merge (ofValue v) = t
  least : ∀ u, WellFormed u → (∀ d ∈ ds, ∀ v, (name, v) ∈ d.entries → u.merge (ofValue v) = u) →
    u.merge t = u

end Shape

/-! ## 3. What a sample holds -/

namespace Sample

open Shape

theorem fields_add (s : Sample) (d : Document) : (s.add d).fields = unite s.fields (ofFields d) :=
  rfl

/-- The shapes of the values of a name in documents, in order. -/
def observed (ds : List Document) (name : String) : List Shape :=
  (ds.flatMap fun d => d.values name).map ofValue

theorem mem_observed {ds : List Document} {name : String} {t : Shape} :
    t ∈ observed ds name ↔ ∃ d ∈ ds, ∃ v, (name, v) ∈ d.entries ∧ ofValue v = t := by
  simp only [observed, List.mem_map, List.mem_flatMap, Fields.mem_values]
  constructor
  · rintro ⟨v, ⟨d, hd, hv⟩, ht⟩
    exact ⟨d, hd, v, hv, ht⟩
  · rintro ⟨d, hd, v, hv, ht⟩
    exact ⟨v, ⟨d, hd, hv⟩, ht⟩

/-- Taking in documents merges what they show under a name into what is held. -/
theorem under_foldl_add (name : String) : ∀ (ds : List Document) (s : Sample),
    under (ds.foldl add s).fields name = (observed ds name).foldl merge (under s.fields name)
  | [], _ => rfl
  | d :: ds, s => by
    rw [List.foldl_cons, under_foldl_add name ds, fields_add, under_unite, values_ofFields]
    simp [observed]

/-- **A sample holds the merge of what the documents show.** -/
theorem under_ofDocuments (ds : List Document) (name : String) :
    under (ofDocuments ds).fields name = (observed ds name).foldl merge .unobserved :=
  under_foldl_add name ds empty

theorem fieldsWellFormed_foldl_add : ∀ (ds : List Document) {s : Sample},
    FieldsWellFormed s.fields → FieldsWellFormed (ds.foldl add s).fields
  | [], _, hs => hs
  | d :: ds, _, hs => fieldsWellFormed_foldl_add ds (hs.unite (wellFormed_ofEntries d.entries))

theorem fieldsWellFormed_ofDocuments (ds : List Document) :
    FieldsWellFormed (ofDocuments ds).fields := fieldsWellFormed_foldl_add ds fieldsWellFormed_empty

theorem mem_keys_foldl_add {name : String} : ∀ (ds : List Document) {s : Sample},
    name ∈ (ds.foldl add s).fields.keys ↔ name ∈ s.fields.keys ∨ ∃ d ∈ ds, name ∈ d.keys
  | [], _ => by simp
  | d :: ds, s => by
    rw [List.foldl_cons, mem_keys_foldl_add ds, fields_add, mem_keys_unite, keys_ofFields, or_assoc]
    simp

/-- A sample has the names that occur in the documents. -/
theorem mem_keys_ofDocuments {ds : List Document} {name : String} :
    name ∈ (ofDocuments ds).fields.keys ↔ ∃ d ∈ ds, name ∈ d.keys := by
  rw [ofDocuments, mem_keys_foldl_add]
  simp [empty, Fields.empty, Fields.keys]

/-- What covers the values of a name covers what is held of it, and the reverse. -/
theorem covers_under_ofDocuments_iff {u : Shape} (hu : WellFormed u) (ds : List Document)
    (name : String) : Covers u (under (ofDocuments ds).fields name) ↔
      ∀ d ∈ ds, ∀ v, (name, v) ∈ d.entries → Covers u (ofValue v) := by
  have hobs : ∀ t ∈ observed ds name, WellFormed t := by
    intro t ht
    obtain ⟨d, -, v, -, rfl⟩ := mem_observed.mp ht
    exact wellFormed_ofValue v
  rw [under_ofDocuments, covers_foldl_iff hu .unobserved hobs]
  constructor
  · rintro ⟨-, h⟩ d hd v hv
    exact h _ (mem_observed.mpr ⟨d, hd, v, hv, rfl⟩)
  · intro h
    refine ⟨covers_unobserved u, fun t ht => ?_⟩
    obtain ⟨d, hd, v, hv, rfl⟩ := mem_observed.mp ht
    exact h d hd v hv

/-- What is held of a name is the least that covers its values. -/
theorem leastCover_under (ds : List Document) (name : String) :
    LeastCover ds name (under (ofDocuments ds).fields name) := by
  have hwf : WellFormed (under (ofDocuments ds).fields name) :=
    (fieldsWellFormed_ofDocuments ds).under name
  refine ⟨hwf, ?_, ?_⟩
  · exact (covers_under_ofDocuments_iff hwf ds name).mp (covers_self hwf)
  · intro u hu h
    exact (covers_under_ofDocuments_iff hu ds name).mpr h

/-- A document that has been sampled adds nothing when it is taken in again. -/
theorem fields_add_of_mem {ds : List Document} {d : Document} (hd : d ∈ ds) :
    ((ofDocuments ds).add d).fields = (ofDocuments ds).fields := by
  rw [fields_add]
  refine unite_eq_of_covers (fieldsWellFormed_ofDocuments ds).1 ?_ ?_
  · intro name hm
    rw [keys_ofFields] at hm
    exact mem_keys_ofDocuments.mpr ⟨d, hd, hm⟩
  · intro name t ht
    rw [values_ofFields] at ht
    obtain ⟨v, hv, rfl⟩ := List.mem_map.mp ht
    exact (leastCover_under ds name).covers d hd v (Fields.mem_values.mp hv)

/-- **The shape of a sampled field is the least upper bound of what the documents show.**  For every
name that occurs in the documents the sample holds a shape, which covers every value of that name
and is covered by every well-formed shape that covers them all.  So a document that has been taken
in changes nothing when it is taken in again. -/
theorem leastCover_ofDocuments (ds : List Document) :
    (∀ name, (∃ d ∈ ds, name ∈ d.keys) →
      ∃ t, (ofDocuments ds).fields.get? name = some t ∧ LeastCover ds name t) ∧
    ∀ d ∈ ds, ((ofDocuments ds).add d).fields = (ofDocuments ds).fields := by
  refine ⟨fun name h => ?_, fun d hd => fields_add_of_mem hd⟩
  exact ⟨_, get?_of_mem (mem_keys_ofDocuments.mpr h), leastCover_under ds name⟩

/-- Nulls in a list within a struct yield to what is observed later, and a field that comes later
goes to the end. -/
theorem leastCover_ofDocuments_nested :
    let d : Document := ⟨[("a", .document ⟨[("xs", .array [.null])]⟩)]⟩
    let d' : Document :=
      ⟨[("a", .document ⟨[("b", .bool true), ("xs", .array [.int32 5])]⟩)]⟩
    "a" ∈ d.keys ∧ d ∈ [d, d'] ∧
      LeastCover [d, d'] "a"
        (.struct ⟨[("xs", .list (.scalar .int32)), ("b", .scalar .boolean)]⟩) ∧
      ((ofDocuments [d, d']).add d).fields = (ofDocuments [d, d']).fields := by
  intro d d'
  have hname : "a" ∈ d.keys := by decide
  have hd : d ∈ [d, d'] := List.mem_cons_self
  have h := leastCover_ofDocuments [d, d']
  obtain ⟨t, ht, hleast⟩ := h.1 "a" ⟨d, hd, hname⟩
  obtain rfl := Option.some.inj ht
  exact ⟨hname, hd, hleast, h.2 d hd⟩

end Sample

end DocTables
