/-
# Merging shapes

On well-formed shapes, those in which no struct has two fields of one name, `merge` is associative
(`merge_assoc`) and merging in again what has been merged in changes nothing (`merge_merge_left`,
`merge_merge_right`).  Both hold exactly, with the order of fields, although `merge` is commutative
only up to that order.

Fields are compared by their names in order and by the shape `under` each name, which is
`unobserved` for a name that is not there.  `unite` acts on names by appending the new ones
(`keys_unite`) and under each name by `merge` (`under_unite_of_distinct`), so a law of `merge`
passes from the fields of structs to the structs.
-/
import DocTables.Inference.Shape
import DocTables.Proofs.Fields

namespace DocTables

/-! ## 1. Scalars -/

namespace Scalar

theorem merge_assoc (a b c : Scalar) : (a.merge b).merge c = a.merge (b.merge c) := by
  cases a <;> cases b <;> cases c <;> rfl

theorem merge_comm (a b : Scalar) : a.merge b = b.merge a := by
  cases a <;> cases b <;> rfl

theorem merge_merge_left (a b : Scalar) : (a.merge b).merge a = a.merge b := by
  cases a <;> cases b <;> rfl

@[simp] theorem merge_self (a : Scalar) : a.merge a = a := by
  simp [Scalar.merge]

@[simp] theorem string_merge (a : Scalar) : Scalar.string.merge a = .string := by
  cases a <;> rfl

@[simp] theorem merge_string (a : Scalar) : a.merge .string = .string := by
  cases a <;> rfl

end Scalar

namespace Shape

/-! ## 2. What `merge` does by the kinds of shapes -/

/-- Structs united: the fields of both, merged where they have the same name. -/
def unite (f g : Fields Shape) : Fields Shape := ⟨mergeEntries f.entries g.entries⟩

section

variable (a b e e' : Shape) (s t : Scalar) (f g : Fields Shape)

@[simp] theorem unobserved_merge : merge .unobserved b = b := by
  cases b <;> rfl

@[simp] theorem merge_unobserved : merge a .unobserved = a := by
  cases a <;> rfl

@[simp] theorem scalar_merge_scalar : merge (.scalar s) (.scalar t) = .scalar (s.merge t) := rfl

@[simp] theorem list_merge_list : merge (.list e) (.list e') = .list (merge e e') := rfl

@[simp] theorem struct_merge_struct : merge (.struct f) (.struct g) = .struct (unite f g) := rfl

@[simp] theorem scalar_merge_list : merge (.scalar s) (.list e) = .scalar .string := rfl

@[simp] theorem scalar_merge_struct : merge (.scalar s) (.struct f) = .scalar .string := rfl

@[simp] theorem list_merge_scalar : merge (.list e) (.scalar s) = .scalar .string := rfl

@[simp] theorem list_merge_struct : merge (.list e) (.struct f) = .scalar .string := rfl

@[simp] theorem struct_merge_scalar : merge (.struct f) (.scalar s) = .scalar .string := rfl

@[simp] theorem struct_merge_list : merge (.struct f) (.list e) = .scalar .string := rfl

/-- Text covers everything. -/
@[simp] theorem string_merge : merge (.scalar .string) b = .scalar .string := by
  cases b <;> simp

@[simp] theorem merge_string : merge a (.scalar .string) = .scalar .string := by
  cases a <;> simp

end

/-! ## 3. Fields under their names -/

/-- What has been observed under a name. -/
def under (f : Fields Shape) (name : String) : Shape := (f.get? name).getD .unobserved

theorem get?_of_mem {f : Fields Shape} {name : String} (h : name ∈ f.keys) :
    f.get? name = some (under f name) := by
  obtain ⟨t, ht⟩ := Option.isSome_iff_exists.mp (Fields.get?_isSome_iff.mpr h)
  rw [under, ht, Option.getD_some]

theorem under_of_mem {f : Fields Shape} (hf : f.Distinct) {e : String × Shape}
    (h : e ∈ f.entries) : under f e.1 = e.2 := by
  rw [under, hf.get?_eq_some h, Option.getD_some]

/-- A property of nothing observed and of all fields holds under every name. -/
theorem under_induct {motive : Shape → Prop} {f : Fields Shape} (unobserved : motive .unobserved)
    (parts : ∀ e ∈ f.entries, motive e.2) (name : String) : motive (under f name) := by
  unfold under
  cases h : f.get? name with
  | none => exact unobserved
  | some t => exact parts _ (Fields.mem_entries_of_get? h)

theorem ext_under {f g : Fields Shape} (hf : f.Distinct) (hk : f.keys = g.keys)
    (h : ∀ name, under f name = under g name) : f = g := by
  refine Fields.ext_get? hf hk fun name hm => ?_
  rw [get?_of_mem hm, get?_of_mem (hk ▸ hm), h name]

/-! ## 4. Structs united -/

/-- One more field merged into fields. -/
theorem mergeField_eq (f : Fields Shape) (name : String) (t : Shape) :
    mergeField f name t = ⟨Fields.alterEntries name
      (fun | none => t | some c => merge c t) f.entries⟩ := rfl

theorem unite_cons (f : Fields Shape) (name : String) (t : Shape)
    (rest : List (String × Shape)) :
    unite f ⟨(name, t) :: rest⟩ = unite (mergeField f name t) ⟨rest⟩ := rfl

@[simp] theorem unite_empty (f : Fields Shape) : unite f .empty = f := rfl

theorem under_mergeField (f : Fields Shape) (name : String) (t : Shape) (other : String) :
    under (mergeField f name t) other =
      if name = other then merge (under f other) t else under f other := by
  rw [mergeField_eq, under, Fields.get?, under, Fields.get?]
  split
  · rename_i h
    subst h
    rw [Fields.lookup_alterEntries_self]
    cases f.entries.lookup name <;> simp
  · rename_i h
    rw [Fields.lookup_alterEntries_of_ne fun e => h e.symm]

theorem keys_mergeField (f : Fields Shape) (name : String) (t : Shape) :
    (mergeField f name t).keys = if name ∈ f.keys then f.keys else f.keys ++ [name] := by
  rw [mergeField_eq, Fields.keys, Fields.keys_alterEntries, Fields.keys]

/-- Under each name, all that the second fields have there is merged in. -/
theorem under_unite (f g : Fields Shape) (name : String) :
    under (unite f g) name = (g.values name).foldl merge (under f name) := by
  obtain ⟨es⟩ := g
  induction es generalizing f with
  | nil => rfl
  | cons e es ih =>
    obtain ⟨key, t⟩ := e
    rw [unite_cons, ih, under_mergeField]
    by_cases h : key = name <;> simp [Fields.values, h]

theorem under_unite_of_distinct {f g : Fields Shape} (hg : g.Distinct) (name : String) :
    under (unite f g) name = merge (under f name) (under g name) := by
  rw [under_unite, hg.values_eq]
  unfold under
  cases g.get? name <;> simp

theorem mem_keys_mergeField {f : Fields Shape} {name other : String} {t : Shape} :
    other ∈ (mergeField f name t).keys ↔ other ∈ f.keys ∨ other = name := by
  rw [keys_mergeField]
  split
  · rename_i h
    constructor
    · exact Or.inl
    · rintro (hm | rfl)
      · exact hm
      · exact h
  · simp

theorem mem_keys_unite {f g : Fields Shape} {name : String} :
    name ∈ (unite f g).keys ↔ name ∈ f.keys ∨ name ∈ g.keys := by
  obtain ⟨es⟩ := g
  induction es generalizing f with
  | nil => simp [unite, mergeEntries, Fields.keys]
  | cons e es ih =>
    obtain ⟨key, t⟩ := e
    rw [unite_cons, ih, mem_keys_mergeField, Fields.keys_cons, List.mem_cons, or_assoc]

/-- The new names come after the others, in order. -/
theorem keys_unite {f g : Fields Shape} (hg : g.Distinct) :
    (unite f g).keys = f.keys ++ g.keys.filter (· ∉ f.keys) := by
  obtain ⟨es⟩ := g
  induction es generalizing f with
  | nil => simp [unite, mergeEntries, Fields.keys]
  | cons e es ih =>
    obtain ⟨key, t⟩ := e
    obtain ⟨hkey, hes⟩ := Fields.distinct_cons.mp hg
    rw [unite_cons, ih hes, keys_mergeField, Fields.keys_cons]
    by_cases h : key ∈ f.keys
    · simp [h]
    · have hfilter : (⟨es⟩ : Fields Shape).keys.filter (· ∉ f.keys ++ [key]) =
          (⟨es⟩ : Fields Shape).keys.filter (· ∉ f.keys) := by
        refine List.filter_congr fun name hm => ?_
        have hne : name ≠ key := fun e => hkey (e ▸ hm)
        simp [hne]
      rw [if_neg h, hfilter]
      simp [h]

theorem distinct_mergeField {f : Fields Shape} (hf : f.Distinct) (name : String) (t : Shape) :
    (mergeField f name t).Distinct := Fields.nodup_alterEntries hf name _

theorem distinct_unite {f : Fields Shape} (hf : f.Distinct) (g : Fields Shape) :
    (unite f g).Distinct := by
  obtain ⟨es⟩ := g
  induction es generalizing f with
  | nil => exact hf
  | cons e es ih => exact ih (distinct_mergeField hf e.1 e.2)

/-! ## 5. Well-formed shapes -/

/-- No struct in the shape has two fields of one name. -/
inductive WellFormed : Shape → Prop
  | unobserved : WellFormed .unobserved
  | scalar (s : Scalar) : WellFormed (.scalar s)
  | list {e : Shape} (element : WellFormed e) : WellFormed (.list e)
  | struct {f : Fields Shape} (distinct : f.Distinct)
      (parts : ∀ e ∈ f.entries, WellFormed e.2) : WellFormed (.struct f)

/-- Fields with distinct names and well-formed shapes, as structs and samples have them. -/
def FieldsWellFormed (f : Fields Shape) : Prop :=
  f.Distinct ∧ ∀ e ∈ f.entries, WellFormed e.2

theorem wellFormed_struct_iff {f : Fields Shape} :
    WellFormed (.struct f) ↔ FieldsWellFormed f := by
  constructor
  · rintro (_ | _ | _ | ⟨distinct, parts⟩)
    exact ⟨distinct, parts⟩
  · rintro ⟨distinct, parts⟩
    exact .struct distinct parts

theorem fieldsWellFormed_empty : FieldsWellFormed Fields.empty :=
  ⟨Fields.Distinct.empty, by simp [Fields.empty]⟩

theorem FieldsWellFormed.under {f : Fields Shape} (h : FieldsWellFormed f) (name : String) :
    WellFormed (under f name) := under_induct .unobserved h.2 name

/-- Fields are well-formed if what stands under each name is. -/
theorem fieldsWellFormed_of_under {f : Fields Shape} (hf : f.Distinct)
    (h : ∀ name, WellFormed (Shape.under f name)) : FieldsWellFormed f := by
  refine ⟨hf, fun e he => ?_⟩
  rw [← under_of_mem hf he]
  exact h e.1

/-- **Merging keeps shapes well-formed.** -/
theorem WellFormed.merge {a b : Shape} (ha : WellFormed a) (hb : WellFormed b) :
    WellFormed (a.merge b) := by
  induction ha generalizing b with
  | unobserved => simpa using hb
  | scalar s =>
    cases hb with
    | unobserved => exact .scalar s
    | scalar t => exact .scalar _
    | list element => exact .scalar _
    | struct distinct parts => exact .scalar _
  | list element ih =>
    cases hb with
    | unobserved => exact .list element
    | scalar t => exact .scalar _
    | list element' => exact .list (ih element')
    | struct distinct parts => exact .scalar _
  | @struct f distinct parts ih =>
    cases hb with
    | unobserved => exact .struct distinct parts
    | scalar t => exact .scalar _
    | list element => exact .scalar _
    | @struct g distinct' parts' =>
      rw [struct_merge_struct]
      refine wellFormed_struct_iff.mpr
        (fieldsWellFormed_of_under (distinct_unite distinct g) fun name => ?_)
      rw [under_unite_of_distinct distinct']
      have hg : WellFormed (under g name) := FieldsWellFormed.under ⟨distinct', parts'⟩ name
      exact under_induct (motive := fun t => WellFormed (t.merge (Shape.under g name)))
        (by simpa using hg) (fun e he => ih e he hg) name

theorem wellFormed_foldl : ∀ {ts : List Shape} {start : Shape}, WellFormed start →
    (∀ t ∈ ts, WellFormed t) → WellFormed (ts.foldl merge start)
  | [], _, hs, _ => hs
  | t :: ts, start, hs, h => by
    rw [List.foldl_cons]
    exact wellFormed_foldl (hs.merge (h t List.mem_cons_self))
      fun v hv => h v (List.mem_cons_of_mem t hv)

theorem FieldsWellFormed.unite {f g : Fields Shape} (hf : FieldsWellFormed f)
    (hg : ∀ e ∈ g.entries, WellFormed e.2) : FieldsWellFormed (unite f g) := by
  refine fieldsWellFormed_of_under (distinct_unite hf.1 g) fun name => ?_
  rw [under_unite]
  exact wellFormed_foldl (hf.under name) fun t ht => hg _ (Fields.mem_values.mp ht)

/-! ## 6. The laws -/

theorem unite_assoc {f g h : Fields Shape} (hf : f.Distinct) (hg : g.Distinct) (hh : h.Distinct)
    (ih : ∀ name, merge (merge (under f name) (under g name)) (under h name) =
      merge (under f name) (merge (under g name) (under h name))) :
    unite (unite f g) h = unite f (unite g h) := by
  refine ext_under (distinct_unite (distinct_unite hf g) h) ?_ fun name => ?_
  · rw [keys_unite hh, keys_unite hg, keys_unite (distinct_unite hg h), keys_unite hh,
      List.filter_append, List.filter_filter, List.append_assoc]
    congr 2
    refine List.filter_congr fun name _ => ?_
    by_cases hn : name ∈ f.keys <;> simp [hn]
  · rw [under_unite_of_distinct hh, under_unite_of_distinct hg,
      under_unite_of_distinct (distinct_unite hg h), under_unite_of_distinct hh, ih name]

/-- **`merge` is associative**, with the order of fields. -/
theorem merge_assoc {a b c : Shape} (ha : WellFormed a) (hb : WellFormed b) (hc : WellFormed c) :
    merge (merge a b) c = merge a (merge b c) := by
  induction ha generalizing b c with
  | unobserved => simp
  | scalar s => cases hb <;> cases hc <;> simp [Scalar.merge_assoc]
  | list element ih =>
    cases hb with
    | list element' =>
      cases hc with
      | list element'' =>
        simp only [list_merge_list]
        rw [ih element' element'']
      | _ => simp
    | _ => cases hc <;> simp
  | @struct f distinct parts ih =>
    cases hb with
    | @struct g distinct' parts' =>
      cases hc with
      | @struct h distinct'' parts'' =>
        simp only [struct_merge_struct]
        refine congrArg Shape.struct (unite_assoc distinct distinct' distinct'' fun name => ?_)
        have hg : WellFormed (under g name) := FieldsWellFormed.under ⟨distinct', parts'⟩ name
        have hh : WellFormed (under h name) := FieldsWellFormed.under ⟨distinct'', parts''⟩ name
        exact under_induct (motive := fun t => merge (merge t (under g name)) (under h name) =
          merge t (merge (under g name) (under h name))) (by simp) (fun e he => ih e he hg hh) name
      | _ => simp
    | _ => cases hc <;> simp

theorem unite_unite_left {f g : Fields Shape} (hf : f.Distinct) (hg : g.Distinct)
    (ih : ∀ name, merge (merge (under f name) (under g name)) (under f name) =
      merge (under f name) (under g name)) : unite (unite f g) f = unite f g := by
  refine ext_under (distinct_unite (distinct_unite hf g) f) ?_ fun name => ?_
  · have hnew : f.keys.filter (· ∉ (unite f g).keys) = [] := by
      refine List.filter_eq_nil_iff.mpr fun name hm => ?_
      simpa using mem_keys_unite.mpr (Or.inl hm)
    rw [keys_unite hf, hnew, List.append_nil]
  · rw [under_unite_of_distinct hf, under_unite_of_distinct hg, ih name]

/-- What has been merged into changes nothing when it is merged in again. -/
theorem merge_merge_left {a b : Shape} (ha : WellFormed a) (hb : WellFormed b) :
    merge (merge a b) a = merge a b := by
  induction ha generalizing b with
  | unobserved => simp
  | scalar s => cases hb <;> simp [Scalar.merge_merge_left]
  | list element ih =>
    cases hb with
    | unobserved => simpa using ih .unobserved
    | list element' => simpa using ih element'
    | _ => simp
  | @struct f distinct parts ih =>
    have under_f (u : Shape) (hu : WellFormed u) (name : String) :
        merge (merge (under f name) u) (under f name) = merge (under f name) u :=
      under_induct (motive := fun t => merge (merge t u) t = merge t u) (by simp)
        (fun e he => ih e he hu) name
    cases hb with
    | unobserved =>
      have h := unite_unite_left distinct Fields.Distinct.empty
        fun name => under_f _ (fieldsWellFormed_empty.under name) name
      simpa using h
    | @struct g distinct' parts' =>
      have h := unite_unite_left distinct distinct'
        fun name => under_f _ (FieldsWellFormed.under ⟨distinct', parts'⟩ name) name
      simpa using h
    | _ => simp

/-- **`merge` is idempotent.** -/
theorem merge_self {a : Shape} (ha : WellFormed a) : merge a a = a := by
  simpa using merge_merge_left ha .unobserved

/-- What has been merged in changes nothing when it is merged in again. -/
theorem merge_merge_right {a b : Shape} (ha : WellFormed a) (hb : WellFormed b) :
    merge (merge a b) b = merge a b := by
  rw [merge_assoc ha hb hb, merge_self hb]

end Shape

end DocTables
