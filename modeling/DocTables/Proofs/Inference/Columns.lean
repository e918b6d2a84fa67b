/-
# The columns of an inferred schema

A sample has the field names of its documents, each once, in the order in which they first come up
(`Sample.keys_ofDocuments`).  So what further documents add comes after what is there, and a schema
of more documents begins with the names of a schema of fewer; under each of these names it holds a
shape that covers the one held before, since it covers all that the documents show.

No struct in the kind of a column has two columns of one name, and all columns are nullable, at
every depth (`Kind.Regular`): this holds of the kinds of all well-formed shapes
(`Shape.regular_kind`).  `Schema.infer_columns` puts this together.
-/
import DocTables.Proofs.Inference.Order

namespace DocTables

/-! ## 1. Kinds of well-formed shapes -/

/-- At every depth, no struct has two columns of one name, and columns are nullable. -/
inductive Kind.Regular : Kind → Prop
  | simple {k : Kind} (simple : k.isComplex = false) : Regular k
  | list {c : Column} (nullable : c.nullable = true) (kind : Regular c.kind) : Regular (.list c)
  | struct {cs : List Column} (names : (cs.map ColumnOf.name).Nodup)
      (nullable : ∀ c ∈ cs, c.nullable = true) (kinds : ∀ c ∈ cs, Regular c.kind) :
      Regular (.struct cs)

namespace Shape

theorem isComplex_scalar (s : Scalar) : s.kind.isComplex = false := by
  cases s <;> rfl

/-- **The kind of a well-formed shape is regular.** -/
theorem regular_kind {t : Shape} (wellFormed : WellFormed t) : t.kind.Regular := by
  induction wellFormed with
  | unobserved => exact .simple rfl
  | scalar s => exact .simple (isComplex_scalar s)
  | list element ih => exact .list rfl ih
  | @struct f distinct parts ih =>
    refine .struct ?_ ?_ ?_
    · rw [names_columns]
      exact distinct
    · intro c hc
      rw [mem_columns distinct hc]
      rfl
    · intro c hc
      rw [columns_eq_map] at hc
      obtain ⟨e, he, rfl⟩ := List.mem_map.mp hc
      exact ih e he

/-! ## 2. Names in the order in which they first come up -/

theorem eraseDups_concat (names : List String) (name : String) :
    (names ++ [name]).eraseDups =
      if name ∈ names.eraseDups then names.eraseDups else names.eraseDups ++ [name] := by
  rw [List.eraseDups_append]
  by_cases h : name ∈ names
  · simp [List.removeAll, h]
  · simp [List.removeAll, List.eraseDups_cons, h]

theorem keys_mergeField_eq {f : Fields Shape} {names : List String}
    (hf : f.keys = names.eraseDups) (name : String) (t : Shape) :
    (mergeField f name t).keys = (names ++ [name]).eraseDups := by
  rw [keys_mergeField, hf, eraseDups_concat]

/-- Uniting adds the names that are not there, each once, in the order in which they come up. -/
theorem keys_unite_eq {f g : Fields Shape} {names : List String} (hf : f.keys = names.eraseDups) :
    (unite f g).keys = (names ++ g.keys).eraseDups := by
  obtain ⟨es⟩ := g
  induction es generalizing f names with
  | nil =>
    change f.keys = (names ++ []).eraseDups
    rw [List.append_nil, hf]
  | cons e es ih =>
    obtain ⟨name, t⟩ := e
    rw [unite_cons, ih (keys_mergeField_eq hf name t), Fields.keys_cons, List.append_assoc]
    rfl

end Shape

namespace Sample

open Shape

theorem keys_foldl_add : ∀ (ds : List Document) {s : Sample} {names : List String},
    s.fields.keys = names.eraseDups →
      (ds.foldl add s).fields.keys = (names ++ ds.flatMap Fields.keys).eraseDups
  | [], s, names, h => by simpa using h
  | d :: ds, s, names, h => by
    have hadd : (s.add d).fields.keys = (names ++ d.keys).eraseDups := by
      rw [fields_add, keys_unite_eq h, keys_ofFields]
    rw [List.foldl_cons, keys_foldl_add ds hadd, List.flatMap_cons, List.append_assoc]

/-- **The names of a sample** are those of the documents, each once, in the order in which they first
come up. -/
theorem keys_ofDocuments (ds : List Document) :
    (ofDocuments ds).fields.keys = (ds.flatMap Fields.keys).eraseDups := by
  have hstart : empty.fields.keys = ([] : List String).eraseDups := rfl
  exact keys_foldl_add ds hstart

/-- More documents add names behind those that are there. -/
theorem keys_isPrefix (ds es : List Document) :
    (ofDocuments ds).fields.keys <+: (ofDocuments (ds ++ es)).fields.keys := by
  rw [keys_ofDocuments, keys_ofDocuments, List.flatMap_append, List.eraseDups_append]
  exact List.prefix_append _ _

/-! ## 3. More documents -/

/-- What is held of a name after more documents covers what was held before. -/
theorem covers_of_subset {ds es : List Document} (h : ∀ d ∈ ds, d ∈ es) (name : String) :
    Covers (under (ofDocuments es).fields name) (under (ofDocuments ds).fields name) := by
  have hes := leastCover_under es name
  refine (covers_under_ofDocuments_iff hes.wellFormed ds name).mpr fun d hd v hv => ?_
  exact hes.covers d (h d hd) v hv

/-- The columns of a sample are nullable and of regular kinds. -/
theorem regular_of_mem_schema {ds : List Document} {c : Column}
    (h : c ∈ (ofDocuments ds).schema.columns) : c.nullable = true ∧ c.kind.Regular := by
  obtain ⟨distinct, parts⟩ := fieldsWellFormed_ofDocuments ds
  rw [schema_ofDocuments] at h
  rw [mem_columns distinct h]
  exact ⟨rfl, regular_kind (FieldsWellFormed.under ⟨distinct, parts⟩ c.name)⟩

end Sample

namespace Schema

open Sample Shape

/-- **The columns of an inferred schema.**  They have the names of the documents that are sampled,
each once, in the order in which they first come up.  No struct in their kinds has two columns of one
name, and all columns are nullable, at every depth.  The columns for fewer documents come first among
those for more, and the shape that stands behind a column then covers the one before. -/
theorem infer_columns (ds : List Document) (n : Nat) :
    (infer ds n).names = ((ds.take n).flatMap Fields.keys).eraseDups ∧
    (infer ds n).names.Nodup ∧
    (∀ c ∈ (infer ds n).columns, c.nullable = true ∧ c.kind.Regular) ∧
    ∀ m, n ≤ m →
      (infer ds n).names <+: (infer ds m).names ∧
      ∀ name ∈ (infer ds n).names, ∃ t u,
        (ofDocuments (ds.take n)).fields.get? name = some t ∧
        (ofDocuments (ds.take m)).fields.get? name = some u ∧
        (infer ds n).column? name = some (Column.ofKind name t.kind) ∧
        (infer ds m).column? name = some (Column.ofKind name u.kind) ∧
        u.merge t = u := by
  unfold infer
  refine ⟨?_, ?_, fun c hc => regular_of_mem_schema hc, fun m hm => ?_⟩
  · rw [names_schema, keys_ofDocuments]
  · rw [names_schema]
    exact (fieldsWellFormed_ofDocuments _).1
  · -- The documents sampled for the greater number are those for the smaller one and others.
    obtain ⟨k, rfl⟩ := Nat.exists_eq_add_of_le hm
    have hmore : ds.take (n + k) = ds.take n ++ (ds.drop n).take k := List.take_add
    have hfirst := keys_isPrefix (ds.take n) ((ds.drop n).take k)
    have hsubset : ∀ d ∈ ds.take n, d ∈ ds.take (n + k) := by
      rw [hmore]
      exact fun d hd => List.mem_append_left _ hd
    rw [← hmore] at hfirst
    refine ⟨by rwa [names_schema, names_schema], fun name hname => ?_⟩
    rw [names_schema] at hname
    have hless := get?_of_mem hname
    have hgreater := get?_of_mem (hfirst.subset hname)
    refine ⟨_, _, hless, hgreater, ?_, ?_, covers_of_subset hsubset name⟩
    · rw [column?_schema, hless, Option.map_some]
    · rw [column?_schema, hgreater, Option.map_some]

/-- A third document changes a struct into text, and adds a column. -/
theorem infer_columns_widened :
    let d : Document := ⟨[("b", .document ⟨[("x", .null), ("y", .array [.int32 1])]⟩), ("a", .null)]⟩
    let d' : Document := ⟨[("a", .bool true), ("b", .document ⟨[("z", .bool true), ("x", .bool true)]⟩)]⟩
    let d'' : Document := ⟨[("c", .null), ("b", .int32 1)]⟩
    let x := Column.ofKind "x" .boolean
    let y := Column.ofKind "y" (.listOf .int32)
    let z := Column.ofKind "z" .boolean
    2 ≤ 3 ∧ (infer [d, d', d''] 2).names = ["b", "a"] ∧
      (infer [d, d', d''] 2).names <+: (infer [d, d', d''] 3).names ∧
      (infer [d, d', d''] 2).column? "b" = some (Column.ofKind "b" (.struct [x, y, z])) ∧
      (infer [d, d', d''] 3).column? "b" = some (Column.ofKind "b" .string) ∧
      (Shape.scalar .string).merge (.struct ⟨[("x", .scalar .boolean),
        ("y", .list (.scalar .int32)), ("z", .scalar .boolean)]⟩) = .scalar .string := by
  intro d d' d'' x y z
  obtain ⟨hnames, -, -, h⟩ := infer_columns [d, d', d''] 2
  obtain ⟨hfirst, hcolumns⟩ := h 3 (by decide)
  have hb : "b" ∈ (infer [d, d', d''] 2).names := by
    rw [hnames]
    decide
  obtain ⟨t, u, ht, hu, hless, hgreater, hcovers⟩ := hcolumns "b" hb
  obtain rfl := Option.some.inj ht
  obtain rfl := Option.some.inj hu
  exact ⟨by decide, hnames, hfirst, hless, hgreater, hcovers⟩

end Schema

end DocTables
