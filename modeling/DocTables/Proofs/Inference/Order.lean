/-
# The order of documents changes only the order of columns and fields

Two shapes that cover each other are the same up to the order of fields, at every depth
(`reordered_of_covers`).  What a sample holds of a name is covered by all that covers the values of
that name, and these do not depend on the order of the documents; so the shapes that two orders of
the same documents give cover each other (`reordered_under_of_perm`).

`Shape.Reordered` and `Kind.Reordered` say what the same up to the order of fields means, and
`kind_reordered` passes from shapes to the kinds of columns.
-/
import DocTables.Proofs.Inference.Cover

namespace DocTables

/-! ## 1. The same up to order -/

/-- The same shape up to the order of the fields of structs, at every depth. -/
inductive Shape.Reordered : Shape → Shape → Prop
  | unobserved : Reordered .unobserved .unobserved
  | scalar (s : Scalar) : Reordered (.scalar s) (.scalar s)
  | list {e e' : Shape} (element : Reordered e e') : Reordered (.list e) (.list e')
  | struct {f g : Fields Shape} (names : f.keys.Perm g.keys)
      (parts : ∀ name, Reordered (under f name) (under g name)) :
      Reordered (.struct f) (.struct g)

/-- The same kind up to the order of the columns of structs, at every depth: the names are the same
in another order, and columns of one name are the same up to order. -/
inductive Kind.Reordered : Kind → Kind → Prop
  | same (k : Kind) : Reordered k k
  | list {c d : Column} (name : c.name = d.name) (nullable : c.nullable = d.nullable)
      (kind : Reordered c.kind d.kind) : Reordered (.list c) (.list d)
  | struct {cs ds : List Column} (names : (cs.map ColumnOf.name).Perm (ds.map ColumnOf.name))
      (nullable : ∀ c ∈ cs, ∀ d ∈ ds, c.name = d.name → c.nullable = d.nullable)
      (kinds : ∀ c ∈ cs, ∀ d ∈ ds, c.name = d.name → Reordered c.kind d.kind) :
      Reordered (.struct cs) (.struct ds)

/-- The same column up to the order of the columns in its kind. -/
structure Column.Reordered (c d : Column) : Prop where
  name : c.name = d.name
  nullable : c.nullable = d.nullable
  kind : c.kind.Reordered d.kind

namespace Shape

/-- **Shapes that cover each other are the same up to order.** -/
theorem reordered_of_covers {a b : Shape} (ha : WellFormed a) (hb : WellFormed b)
    (hab : Covers a b) (hba : Covers b a) : Reordered a b := by
  unfold Covers at hab hba
  induction ha generalizing b with
  | unobserved =>
    obtain rfl : b = .unobserved := by simpa using hab
    exact .unobserved
  | scalar s =>
    cases hb with
    | unobserved => simp at hba
    | scalar t =>
      simp only [scalar_merge_scalar, Shape.scalar.injEq] at hab hba
      obtain rfl : s = t := by rw [← hab, Scalar.merge_comm, hba]
      exact .scalar s
    | list element => simp at hba
    | struct distinct parts => simp at hba
  | list element ih =>
    cases hb with
    | unobserved => simp at hba
    | scalar t => simp at hab
    | list element' =>
      simp only [list_merge_list, Shape.list.injEq] at hab hba
      exact .list (ih element' hab hba)
    | struct distinct parts => simp at hba
  | @struct f distinct parts ih =>
    cases hb with
    | unobserved => simp at hba
    | scalar t => simp at hab
    | list element => simp at hab
    | @struct g distinct' parts' =>
      simp only [struct_merge_struct, Shape.struct.injEq] at hab hba
      have names : f.keys.Perm g.keys := by
        refine (List.perm_ext_iff_of_nodup distinct distinct').mpr fun name => ⟨?_, ?_⟩
        · intro hm
          rw [← hba]
          exact mem_keys_unite.mpr (Or.inr hm)
        · intro hm
          rw [← hab]
          exact mem_keys_unite.mpr (Or.inr hm)
      refine .struct names fun name => ?_
      have hg : WellFormed (under g name) := FieldsWellFormed.under ⟨distinct', parts'⟩ name
      have h1 : merge (under f name) (under g name) = under f name := by
        rw [← under_unite_of_distinct distinct', hab]
      have h2 : merge (under g name) (under f name) = under g name := by
        rw [← under_unite_of_distinct distinct, hba]
      revert h1 h2
      refine under_induct (motive := fun t => merge t (under g name) = t →
        merge (under g name) t = under g name → Reordered t (under g name)) ?_ ?_ name
      · intro h1 _
        obtain h1 : under g name = .unobserved := by simpa using h1
        rw [h1]
        exact .unobserved
      · intro e he h1 h2
        exact ih e he hg h1 h2

/-! ## 2. From shapes to columns -/

theorem columns_eq_map : ∀ es : List (String × Shape),
    columns es = es.map fun e => Column.ofKind e.1 e.2.kind
  | [] => rfl
  | (name, t) :: es => by rw [columns, columns_eq_map es, List.map_cons]

theorem names_columns (f : Fields Shape) : (columns f.entries).map ColumnOf.name = f.keys := by
  simp [columns_eq_map, Fields.keys, Column.ofKind, Function.comp_def]

/-- A column of fields with distinct names is that of what stands under its name. -/
theorem mem_columns {f : Fields Shape} (hf : f.Distinct) {c : Column}
    (h : c ∈ columns f.entries) : c = Column.ofKind c.name (under f c.name).kind := by
  rw [columns_eq_map] at h
  obtain ⟨e, he, rfl⟩ := List.mem_map.mp h
  rw [show (Column.ofKind e.1 e.2.kind).name = e.1 from rfl, under_of_mem hf he]

/-- Shapes that are the same up to order have kinds that are. -/
theorem kind_reordered {a b : Shape} (h : Reordered a b) : WellFormed a → WellFormed b →
    a.kind.Reordered b.kind := by
  induction h with
  | unobserved => exact fun _ _ => .same _
  | scalar s => exact fun _ _ => .same _
  | list element ih =>
    rintro (_ | _ | ha | _) (_ | _ | hb | _)
    exact .list rfl rfl (ih ha hb)
  | @struct f g names parts ih =>
    intro ha hb
    obtain ⟨hf, hfparts⟩ := wellFormed_struct_iff.mp ha
    obtain ⟨hg, hgparts⟩ := wellFormed_struct_iff.mp hb
    refine .struct ?_ ?_ ?_
    · rwa [names_columns, names_columns]
    · intro c hc d hd _
      rw [mem_columns hf hc, mem_columns hg hd]
      rfl
    · intro c hc d hd hname
      rw [mem_columns hf hc, mem_columns hg hd, hname]
      exact ih d.name (FieldsWellFormed.under ⟨hf, hfparts⟩ _)
        (FieldsWellFormed.under ⟨hg, hgparts⟩ _)

theorem find?_columns (name : String) : ∀ es : List (String × Shape),
    (columns es).find? (·.name == name) =
      (es.lookup name).map fun t => Column.ofKind name t.kind
  | [] => rfl
  | (key, t) :: es => by
    rw [columns, List.find?_cons, List.lookup_cons]
    by_cases h : key = name
    · subst h
      simp [Column.ofKind]
    · have h1 : ((Column.ofKind key t.kind).name == name) = false := by
        simpa [Column.ofKind] using h
      have h2 : (name == key) = false := by simpa using Ne.symm h
      rw [h1, h2]
      exact find?_columns name es

end Shape

/-! ## 3. The same documents in another order -/

namespace Sample

open Shape

/-- The order of documents changes only the order of fields in what is held of a name. -/
theorem reordered_under_of_perm {ds es : List Document} (h : ds.Perm es) (name : String) :
    Reordered (under (ofDocuments ds).fields name) (under (ofDocuments es).fields name) := by
  have hds := leastCover_under ds name
  have hes := leastCover_under es name
  refine reordered_of_covers hds.wellFormed hes.wellFormed ?_ ?_
  · exact hes.least _ hds.wellFormed fun d hd => hds.covers d (h.mem_iff.mpr hd)
  · exact hds.least _ hes.wellFormed fun d hd => hes.covers d (h.mem_iff.mp hd)

theorem keys_perm_of_perm {ds es : List Document} (h : ds.Perm es) :
    (ofDocuments ds).fields.keys.Perm (ofDocuments es).fields.keys := by
  refine (List.perm_ext_iff_of_nodup (fieldsWellFormed_ofDocuments ds).1
    (fieldsWellFormed_ofDocuments es).1).mpr fun name => ?_
  simp only [mem_keys_ofDocuments, h.mem_iff]

/-- The schema of a sample has one column for each name, in the order of the sample. -/
theorem schema_ofDocuments (ds : List Document) :
    (ofDocuments ds).schema = ⟨columns (ofDocuments ds).fields.entries, .empty⟩ := by
  refine Schema.ofColumns_of_nodup ?_
  rw [names_columns]
  exact (fieldsWellFormed_ofDocuments ds).1

theorem names_schema (ds : List Document) :
    (ofDocuments ds).schema.names = (ofDocuments ds).fields.keys := by
  rw [schema_ofDocuments]
  exact names_columns _

theorem column?_schema (ds : List Document) (name : String) :
    (ofDocuments ds).schema.column? name =
      ((ofDocuments ds).fields.get? name).map fun t => Column.ofKind name t.kind := by
  rw [schema_ofDocuments]
  exact find?_columns name _

end Sample

namespace Schema

open Sample Shape

/-- The same schema up to the order of columns, those in structs included. -/
structure Reordered (s t : Schema) : Prop where
  names : s.names.Perm t.names
  columns : ∀ name, Option.Rel Column.Reordered (s.column? name) (t.column? name)
  metadata : s.metadata = t.metadata

theorem reordered_of_perm {ds es : List Document} (h : ds.Perm es) :
    Reordered (ofDocuments ds).schema (ofDocuments es).schema := by
  refine ⟨?_, fun name => ?_, ?_⟩
  · rw [names_schema, names_schema]
    exact keys_perm_of_perm h
  · rw [column?_schema, column?_schema]
    by_cases hm : name ∈ (ofDocuments ds).fields.keys
    · rw [get?_of_mem hm, get?_of_mem ((keys_perm_of_perm h).mem_iff.mp hm)]
      exact .some ⟨rfl, rfl, kind_reordered (reordered_under_of_perm h name)
        ((fieldsWellFormed_ofDocuments ds).under name)
        ((fieldsWellFormed_ofDocuments es).under name)⟩
    · rw [Fields.get?_eq_none_iff.mpr hm,
        Fields.get?_eq_none_iff.mpr (mt (keys_perm_of_perm h).mem_iff.mpr hm)]
      exact .none
  · rw [schema_ofDocuments, schema_ofDocuments]

/-- **The order of the documents changes only the order of columns and struct fields.**  Where all
documents are sampled, another order of them gives a schema with the same names and, for every name,
with the same column up to the order of the fields of structs, at every depth. -/
theorem infer_reordered {ds es : List Document} (h : ds.Perm es) {size : Nat}
    (hsize : ds.length ≤ size) : Reordered (infer ds size) (infer es size) := by
  unfold infer
  rw [List.take_of_length_le hsize, List.take_of_length_le (h.length_eq ▸ hsize)]
  exact reordered_of_perm h

/-- The order of three documents decides the order of the columns and of the fields of the structs
in a list, and nothing else. -/
theorem infer_reordered_rotated :
    let d : Document := ⟨[("a", .array [.document ⟨[("x", .null), ("y", .int32 1)]⟩])]⟩
    let d' : Document := ⟨[("b", .bool true), ("a", .array [])]⟩
    let d'' : Document :=
      ⟨[("a", .array [.document ⟨[("y", .int64 9999999999), ("x", .bool true)]⟩])]⟩
    let x := Column.ofKind "x" .boolean
    let y := Column.ofKind "y" .int64
    let b := Column.ofKind "b" .boolean
    [d, d', d''].Perm [d', d'', d] ∧ [d, d', d''].length ≤ 3 ∧
      Reordered ⟨[Column.ofKind "a" (.listOf (.struct [x, y])), b], .empty⟩
        ⟨[b, Column.ofKind "a" (.listOf (.struct [y, x]))], .empty⟩ := by
  intro d d' d'' x y b
  have hperm : [d, d', d''].Perm [d', d'', d] :=
    (List.perm_append_comm : ([d] ++ [d', d'']).Perm ([d', d''] ++ [d]))
  have hsize : [d, d', d''].length ≤ 3 := Nat.le_refl 3
  exact ⟨hperm, hsize, infer_reordered hperm hsize⟩

end Schema

end DocTables
