/-
# Sampled values reach the representation of their column

A column declares a representation for its values (`Kind.Declares`).  Inference and coercion go by
the types of values each in its own way; that they agree follows from what a sample holds: its shape
of a field covers the shape of every value of that field.  What covers a scalar is a scalar that is
the same or wider (`covers_scalar`, `Scalar.eq_or_widens`), and what covers a list or a struct is
another one, or text.  So for each type of value only few kinds are left, and coercion brings the
value into all of them (`declares_coerce`), except that it hands on a 64-bit integer in a column of
32-bit integers or of double precision numbers (`declares_coerce_int64_iff`).
-/
import DocTables.Coercion
import DocTables.Proofs.Inference.Order

namespace DocTables

/-! ## 1. Declared representations -/

/-- The values that a column of a kind declares to have. -/
inductive Kind.Declares : Kind → Value → Prop
  | string (text : String) : Declares .string (.string text)
  | int32 (n : Int32) : Declares .int32 (.int32 n)
  | int64 (n : Int64) : Declares .int64 (.int64 n)
  | float32 (f : Float32) : Declares .float32 (.float32 f)
  | float64 (f : Float) : Declares .float64 (.float64 f)
  | boolean (b : Bool) : Declares .boolean (.bool b)
  | timestamp (instant : Instant) : Declares .timestamp (.dateTime instant)
  | list (element : Column) (items : List Value) : Declares (.list element) (.array items)
  | struct (fields : List Column) (d : Document) : Declares (.struct fields) (.document d)

/-- Anything but null becomes text in a column of text. -/
theorem declares_coerce_string {v : Value} (h : v ≠ .null) :
    Kind.string.Declares (coerce .string v) := by
  cases v with
  | null => exact absurd rfl h
  | _ => exact .string _

/-! ## 2. The instants of timestamps -/

/-- The year of a day lies in its cycle of four hundred years, or is the one after it. -/
theorem Date.year_ofDays (days : Int) :
    400 * (days + 719468).fdiv 146097 ≤ (ofDays days).year ∧
      (ofDays days).year ≤ 400 * (days + 719468).fdiv 146097 + 400 := by
  have h0 : 0 ≤ (days + 719468).fmod 146097 := Int.fmod_nonneg_of_pos _ (by decide)
  have h1 : (days + 719468).fmod 146097 < 146097 := Int.fmod_lt_of_pos _ (by decide)
  simp only [ofDays]
  generalize (days + 719468).fdiv 146097 = cycle
  generalize (days + 719468).fmod 146097 = day at h0 h1
  split <;> omega

/-- Every timestamp denotes an instant: its seconds stay within the years of instants. -/
theorem Timestamp.instant?_isSome (t : Timestamp) : ∃ i, t.instant? = some i := by
  have hlt : t.time.toNat < 4294967296 := t.time.toNat_lt
  have hseconds : ((t.time.toNat : Int) * 1000).fdiv 1000 = t.time.toNat :=
    Int.mul_fdiv_cancel _ (by decide)
  obtain ⟨hlow, hhigh⟩ := Date.year_ofDays ((t.time.toNat : Int).fdiv 86400)
  have hyear : Instant.minYear ≤ (Date.ofDays ((t.time.toNat : Int).fdiv 86400)).year ∧
      (Date.ofDays ((t.time.toNat : Int).fdiv 86400)).year ≤ Instant.maxYear := by
    rw [Int.fdiv_eq_ediv_of_nonneg _ (by decide : (0 : Int) ≤ 86400),
      Int.fdiv_eq_ediv_of_nonneg _ (by decide : (0 : Int) ≤ 146097)] at hlow hhigh
    rw [Int.fdiv_eq_ediv_of_nonneg _ (by decide : (0 : Int) ≤ 86400)]
    unfold Instant.minYear Instant.maxYear
    omega
  unfold Timestamp.instant? Instant.ofMillis?
  simp only [hseconds, if_pos hyear]
  exact ⟨_, rfl⟩

/-! ## 3. The shapes that cover a value -/

/-- A number is widened to one that holds more. -/
inductive Scalar.Widens : Scalar → Scalar → Prop
  | int32_int64 : Widens .int32 .int64
  | int32_float64 : Widens .int32 .float64
  | int64_float64 : Widens .int64 .float64
  | float32_float64 : Widens .float32 .float64

/-- What covers a scalar is the same, or text, or wider. -/
theorem Scalar.eq_or_widens {u s : Scalar} (h : u.merge s = u) :
    u = s ∨ u = .string ∨ s.Widens u := by
  cases s <;> cases u <;> first
    | exact .inl rfl
    | exact .inr (.inl rfl)
    | exact .inr (.inr (by constructor))
    | cases h

namespace Shape

theorem covers_scalar {t : Shape} {s : Scalar} (h : Covers t (.scalar s)) :
    t = .scalar s ∨ t = .scalar .string ∨ ∃ u, t = .scalar u ∧ s.Widens u := by
  unfold Covers at h
  cases t with
  | unobserved => simp at h
  | scalar u =>
    obtain rfl | rfl | hu := Scalar.eq_or_widens (u := u) (s := s) (by simpa using h)
    · exact .inl rfl
    · exact .inr (.inl rfl)
    · exact .inr (.inr ⟨u, rfl, hu⟩)
  | list e => simp at h
  | struct f => simp at h

theorem covers_list {t e : Shape} (h : Covers t (.list e)) :
    t = .scalar .string ∨ ∃ e', t = .list e' := by
  unfold Covers at h
  cases t with
  | unobserved => simp at h
  | scalar u => exact .inl (by simpa using h.symm)
  | list e' => exact .inr ⟨e', rfl⟩
  | struct f => simp at h

theorem covers_struct {t : Shape} {f : Fields Shape} (h : Covers t (.struct f)) :
    t = .scalar .string ∨ ∃ g, t = .struct g := by
  unfold Covers at h
  cases t with
  | unobserved => simp at h
  | scalar u => exact .inl (by simpa using h.symm)
  | list e => simp at h
  | struct g => exact .inr ⟨g, rfl⟩

end Shape

/-! ## 4. Coercion of what is covered -/

/-- A 64-bit integer stands in a column of integers, of double precision numbers or of text; it is
handed on as it is where the kind is neither text nor that of 64-bit integers. -/
theorem declares_coerce_int64_iff {t : Shape} {n : Int64}
    (h : Shape.Covers t (.ofValue (.int64 n))) :
    t.kind.Declares (coerce t.kind (.int64 n)) ↔ ¬ (t.kind = .int32 ∨ t.kind = .float64) := by
  have left {kind : Kind} (hk : kind = .int32 ∨ kind = .float64) :
      kind.Declares (coerce kind (.int64 n)) ↔ ¬ (kind = .int32 ∨ kind = .float64) := by
    refine iff_of_false ?_ (not_not_intro hk)
    rcases hk with rfl | rfl <;> rintro ⟨⟩
  have brought {kind : Kind} (hk : kind = .int64 ∨ kind = .string) :
      kind.Declares (coerce kind (.int64 n)) ↔ ¬ (kind = .int32 ∨ kind = .float64) := by
    rcases hk with rfl | rfl
    · exact iff_of_true (.int64 n) (by simp)
    · exact iff_of_true (.string _) (by simp)
  unfold Shape.ofValue at h
  obtain rfl | rfl | ⟨u, rfl, hu⟩ := Shape.covers_scalar h
  · split
    · exact left (.inl rfl)
    · exact brought (.inl rfl)
  · exact brought (.inr rfl)
  · split at hu
    · cases hu
      · exact brought (.inl rfl)
      · exact left (.inr rfl)
    · cases hu
      exact left (.inr rfl)

/-- Every other value but null reaches the representation that is declared. -/
theorem declares_coerce {t : Shape} {v : Value} (h : Shape.Covers t (.ofValue v))
    (hnull : v ≠ .null) (hint : ∀ n, v ≠ .int64 n) : t.kind.Declares (coerce t.kind v) := by
  have text {t : Shape} (ht : t = .scalar .string) : t.kind.Declares (coerce t.kind v) := by
    subst ht
    exact declares_coerce_string hnull
  -- What is left are the kinds of shapes that cover the value and are not text.
  cases v with
  | null => exact absurd rfl hnull
  | decimal | string | objectId | binary =>
    obtain ht | ht | ⟨u, -, ⟨⟩⟩ := Shape.covers_scalar h
    · exact text ht
    · exact text ht
  | bool b =>
    obtain rfl | ht | ⟨u, -, ⟨⟩⟩ := Shape.covers_scalar h
    · exact .boolean b
    · exact text ht
  | int32 n =>
    obtain rfl | ht | ⟨u, rfl, hu⟩ := Shape.covers_scalar h
    · exact .int32 n
    · exact text ht
    · cases hu
      · exact .int64 n.toInt64
      · exact .float64 n.toFloat
  | int64 n => exact absurd rfl (hint n)
  | float32 f =>
    obtain rfl | ht | ⟨u, rfl, hu⟩ := Shape.covers_scalar h
    · exact .float32 f
    · exact text ht
    · cases hu
      exact .float64 f.toFloat
  | float64 f =>
    obtain rfl | ht | ⟨u, -, ⟨⟩⟩ := Shape.covers_scalar h
    · exact .float64 f
    · exact text ht
  | timestamp stamp =>
    obtain rfl | ht | ⟨u, -, ⟨⟩⟩ := Shape.covers_scalar h
    · obtain ⟨i, hi⟩ := stamp.instant?_isSome
      have hcoerce : coerce .timestamp (.timestamp stamp) = .dateTime i := by simp [coerce, hi]
      show Kind.timestamp.Declares (coerce .timestamp (.timestamp stamp))
      rw [hcoerce]
      exact .timestamp i
    · exact text ht
  | dateTime i =>
    obtain rfl | ht | ⟨u, -, ⟨⟩⟩ := Shape.covers_scalar h
    · exact .timestamp i
    · exact text ht
  | array items =>
    obtain ht | ⟨e, rfl⟩ := Shape.covers_list h
    · exact text ht
    · exact .list _ items
  | document d =>
    obtain ht | ⟨⟨es⟩, rfl⟩ := Shape.covers_struct h
    · exact text ht
    · exact .struct _ d

namespace Schema

open Sample Shape

/-- **A sampled value reaches the representation that its column declares.**  In the schema of all
documents, every field has a column.  Null stays null there; any other value gets the declared
representation, unless it is a 64-bit integer and the column is one of 32-bit integers or of double
precision numbers, where it is handed on as it is. -/
theorem infer_declares {ds : List Document} {size : Nat} (hsize : ds.length ≤ size) {d : Document}
    (hd : d ∈ ds) {name : String} {v : Value} (hv : (name, v) ∈ d.entries) :
    ∃ kind, (infer ds size).kindOf? name = some kind ∧
      (v = .null → coerce kind v = .null) ∧
      (∀ n, v = .int64 n → kind = .int32 ∨ kind = .float64 → coerce kind v = .int64 n) ∧
      (v ≠ .null → (kind.Declares (coerce kind v) ↔
        ¬ ((∃ n, v = .int64 n) ∧ (kind = .int32 ∨ kind = .float64)))) := by
  have hname : name ∈ (ofDocuments ds).fields.keys :=
    mem_keys_ofDocuments.mpr ⟨d, hd, Fields.mem_keys_of_mem hv⟩
  have hcovers : Covers (under (ofDocuments ds).fields name) (ofValue v) :=
    (leastCover_under ds name).covers d hd v hv
  refine ⟨(under (ofDocuments ds).fields name).kind, ?_, ?_, ?_, ?_⟩
  · rw [infer, List.take_of_length_le hsize, kindOf?, column?_schema, get?_of_mem hname]
    rfl
  · rintro rfl
    rfl
  · rintro n rfl (hkind | hkind) <;> rw [hkind] <;> rfl
  · intro hnull
    by_cases hint : ∃ n, v = .int64 n
    · obtain ⟨n, rfl⟩ := hint
      rw [declares_coerce_int64_iff hcovers]
      simp
    · exact iff_of_true (declares_coerce hcovers hnull fun n hn => hint ⟨n, hn⟩)
        fun hex => hint hex.1

/-- Two 64-bit integers: one reaches its column of 64-bit integers, one is handed on in a column of
double precision numbers. -/
theorem infer_declares_int64 :
    let d : Document := ⟨[("n", .int64 7), ("f", .int64 8)]⟩
    let d' : Document := ⟨[("n", .int64 9999999999), ("f", .float32 0.5)]⟩
    [d, d'].length ≤ 2 ∧ d ∈ [d, d'] ∧ ("n", .int64 7) ∈ d.entries ∧ ("f", .int64 8) ∈ d.entries ∧
      (infer [d, d'] 2).kindOf? "n" = some .int64 ∧ Kind.int64.Declares (coerce .int64 (.int64 7)) ∧
      (infer [d, d'] 2).kindOf? "f" = some .float64 ∧
      ¬ Kind.float64.Declares (coerce .float64 (.int64 8)) := by
  intro d d'
  have hsize : [d, d'].length ≤ 2 := Nat.le_refl 2
  have hd : d ∈ [d, d'] := List.mem_cons_self
  have hn : ("n", .int64 7) ∈ d.entries := List.mem_cons_self
  have hf : ("f", .int64 8) ∈ d.entries := List.mem_cons_of_mem _ List.mem_cons_self
  obtain ⟨kind, hkind, -, -, hdeclares⟩ := infer_declares hsize hd hn
  obtain rfl : Kind.int64 = kind := Option.some.inj hkind
  obtain ⟨kind', hkind', -, -, hleft⟩ := infer_declares hsize hd hf
  obtain rfl : Kind.float64 = kind' := Option.some.inj hkind'
  refine ⟨hsize, hd, hn, hf, hkind, ?_, hkind', ?_⟩
  · exact (hdeclares (by simp)).mpr (by simp)
  · exact mt (hleft (by simp)).mp (by simp)

end Schema

end DocTables
