/-
# Fields through their views

`get?` and `keys` determine fields whose names are distinct (`ext_get?`).  `values` lists everything
that stands under a name, also where a name stands more than once.

To insert or remove a field does nothing to the fields of other names (`others_insert`,
`others_erase`), and what is there of other names does not matter to a name (`get?_filter`).
-/
import DocTables.Fields

namespace DocTables.Fields

variable {α : Type}

theorem keys_cons (key : String) (v : α) (es : List (String × α)) :
    (⟨(key, v) :: es⟩ : Fields α).keys = key :: (⟨es⟩ : Fields α).keys := rfl

theorem distinct_cons {key : String} {v : α} {es : List (String × α)} :
    (⟨(key, v) :: es⟩ : Fields α).Distinct ↔
      key ∉ (⟨es⟩ : Fields α).keys ∧ (⟨es⟩ : Fields α).Distinct := List.nodup_cons

/-- All values under a name, in order. -/
def values (f : Fields α) (key : String) : List α :=
  f.entries.filterMap fun e => if e.1 = key then some e.2 else none

theorem mem_values {f : Fields α} {key : String} {v : α} :
    v ∈ f.values key ↔ (key, v) ∈ f.entries := by
  simp only [values, List.mem_filterMap]
  constructor
  · rintro ⟨⟨k, w⟩, hm, he⟩
    split at he
    · rename_i hk
      obtain rfl : k = key := hk
      obtain rfl : w = v := by simpa using he
      exact hm
    · simp at he
  · intro hm
    exact ⟨(key, v), hm, by simp⟩

theorem mem_keys_of_mem {f : Fields α} {e : String × α} (h : e ∈ f.entries) : e.1 ∈ f.keys :=
  List.mem_map.mpr ⟨e, h, rfl⟩

theorem mem_entries_of_get? {f : Fields α} {key : String} {v : α} (h : f.get? key = some v) :
    (key, v) ∈ f.entries := by
  obtain ⟨before, after, he, -⟩ := List.lookup_eq_some_iff.mp h
  simp [he]

theorem get?_eq_none_iff {f : Fields α} {key : String} : f.get? key = none ↔ key ∉ f.keys := by
  simp only [get?, keys, List.lookup_eq_none_iff, List.mem_map, not_exists, not_and]
  constructor
  · intro h e he hk
    simpa [hk] using h e he
  · intro h e he
    simpa using fun hk => h e he (Eq.symm hk)

theorem get?_isSome_iff {f : Fields α} {key : String} : (f.get? key).isSome ↔ key ∈ f.keys := by
  cases h : f.get? key with
  | none => simpa using get?_eq_none_iff.mp h
  | some v => simpa using mem_keys_of_mem (mem_entries_of_get? h)

/-- Under distinct names, every field is found under its name. -/
theorem Distinct.get?_eq_some {f : Fields α} (hf : f.Distinct) {e : String × α}
    (h : e ∈ f.entries) : f.get? e.1 = some e.2 := by
  obtain ⟨before, after, he⟩ := List.append_of_mem h
  refine List.lookup_eq_some_iff.mpr ⟨before, after, he, ?_⟩
  intro p hp
  unfold Distinct keys at hf
  rw [he, List.map_append] at hf
  have hdisj := (List.nodup_append.mp hf).2.2
  simpa using fun hk => hdisj p.1 (List.mem_map.mpr ⟨p, hp, rfl⟩) e.1 (by simp) (Eq.symm hk)

/-- Under distinct names, no more than one value stands under a name. -/
theorem Distinct.values_eq {f : Fields α} (hf : f.Distinct) (key : String) :
    f.values key = (f.get? key).toList := by
  obtain ⟨es⟩ := f
  induction es with
  | nil => rfl
  | cons e es ih =>
    obtain ⟨k, v⟩ := e
    obtain ⟨hk', hes⟩ := distinct_cons.mp hf
    have ih := ih hes
    by_cases hk : k = key
    · subst hk
      rw [get?_eq_none_iff.mpr hk'] at ih
      simpa [values, get?] using ih
    · have hb : (key == k) = false := beq_eq_false_iff_ne.2 fun e => hk e.symm
      simpa [values, get?, hk, List.lookup_cons, hb] using ih

/-- Ignoring case, what stands under the exact name is found, failing that the value of the first
name that differs in ASCII case only. -/
theorem Distinct.getIgnoreCase?_eq {f : Fields α} (hf : f.Distinct) (key : String) :
    f.getIgnoreCase? key =
      (f.get? key).or ((f.keys.find? fun name => Text.eqIgnoreCase name key).bind f.get?) := by
  have hfind : f.keys.find? (fun name => Text.eqIgnoreCase name key) =
      (f.entries.find? fun e => Text.eqIgnoreCase e.1 key).map Prod.fst := List.find?_map
  rw [getIgnoreCase?, hfind]
  cases f.get? key with
  | some v => rfl
  | none =>
    cases hfirst : f.entries.find? fun e => Text.eqIgnoreCase e.1 key with
    | none => rfl
    | some e => exact (hf.get?_eq_some (List.mem_of_find?_eq_some hfirst)).symm

/-- **Names in order and the values under them are all there is to fields.** -/
theorem ext_get? {f g : Fields α} (hf : f.Distinct) (hk : f.keys = g.keys)
    (h : ∀ key ∈ f.keys, f.get? key = g.get? key) : f = g := by
  have hg : g.Distinct := by rwa [Distinct, ← hk]
  have hlen : f.entries.length = g.entries.length := by
    simpa [keys] using congrArg List.length hk
  obtain ⟨es⟩ := f
  obtain ⟨es'⟩ := g
  refine congrArg Fields.mk (List.ext_getElem hlen ?_)
  intro i hi hi'
  have hname : es[i].1 = es'[i].1 := by
    have := congrArg (fun ks => ks[i]?) hk
    simpa [keys, hi, hi'] using this
  have hvalue : some es[i].2 = some es'[i].2 := by
    rw [← hf.get?_eq_some (List.getElem_mem hi), ← hg.get?_eq_some (List.getElem_mem hi'),
      h _ (mem_keys_of_mem (List.getElem_mem hi)), hname]
  exact Prod.ext hname (Option.some.inj hvalue)

/-! ## One field more or less -/

theorem get?_insert (f : Fields α) (key other : String) (value : α) :
    (f.insert key value).get? other = if other = key then some value else f.get? other := by
  by_cases h : other = key
  · rw [if_pos h, h, get?_insert_self]
  · rw [if_neg h, get?_insert_of_ne f h]

theorem mem_keys_insert {f : Fields α} {key other : String} {value : α} :
    other ∈ (f.insert key value).keys ↔ other ∈ f.keys ∨ other = key := by
  rw [keys_insert]
  split
  · rename_i hkey
    exact ⟨.inl, fun h => h.elim id fun h => h ▸ hkey⟩
  · simp

theorem Distinct.keys_erase {f : Fields α} (hf : f.Distinct) (key : String) :
    (f.erase key).keys = f.keys.filter (· != key) := by
  have herase : (f.erase key).keys = f.keys.erase key := by
    rw [keys, keys, List.erase_eq_eraseP', List.eraseP_map]
    rfl
  rw [herase, hf.erase_eq_filter]

theorem Distinct.mem_keys_erase {f : Fields α} (hf : f.Distinct) {key other : String} :
    other ∈ (f.erase key).keys ↔ other ∈ f.keys ∧ other ≠ key := by
  simp [hf.keys_erase]

/-- Leaving out fields of other names changes nothing for a name. -/
theorem get?_filter {keep : String → Bool} {key : String} (h : keep key = true) :
    ∀ f : Fields α, (⟨f.entries.filter fun e => keep e.1⟩ : Fields α).get? key = f.get? key
  | ⟨es⟩ => by
    induction es with
    | nil => rfl
    | cons e es ih =>
      obtain ⟨k, v⟩ := e
      simp only [get?] at ih ⊢
      by_cases hk : key = k
      · subst hk
        simp [h]
      · have hb : (key == k) = false := by simpa using hk
        by_cases hkeep : keep k = true
        · simp [hkeep, List.lookup_cons, hb, ih]
        · simp [hkeep, List.lookup_cons, hb, ih]

/-- The fields of all names but one. -/
def others (f : Fields α) (key : String) : Fields α := ⟨f.entries.filter (·.1 ≠ key)⟩

theorem get?_others (f : Fields α) {key other : String} (h : other ≠ key) :
    (f.others key).get? other = f.get? other :=
  @get?_filter α (fun name => name ≠ key) other (decide_eq_true h) f

theorem keys_others (f : Fields α) (key : String) :
    (f.others key).keys = f.keys.filter (· ≠ key) := by
  rw [keys, keys, List.filter_map]
  rfl

theorem others_insert (f : Fields α) (key : String) (value : α) :
    (f.insert key value).others key = f.others key := by
  obtain ⟨es⟩ := f
  refine congrArg Fields.mk ?_
  rw [insert]
  induction es with
  | nil => simp [put]
  | cons e es ih =>
    obtain ⟨k, v⟩ := e
    by_cases hk : k = key
    · simp [put, hk]
    · rw [put, if_neg hk, List.filter_cons, List.filter_cons, ih]

theorem others_erase (f : Fields α) (key : String) : (f.erase key).others key = f.others key := by
  obtain ⟨es⟩ := f
  refine congrArg Fields.mk ?_
  rw [erase]
  induction es with
  | nil => rfl
  | cons e es ih =>
    obtain ⟨k, v⟩ := e
    by_cases hk : k = key
    · simp [hk]
    · rw [List.eraseP_cons_of_neg (by simpa using hk), List.filter_cons, List.filter_cons, ih]

/-! ## Fields inserted one after another -/

theorem put_of_notMem {key : String} {value : α} : ∀ {es : List (String × α)},
    key ∉ es.map Prod.fst → put key value es = es ++ [(key, value)]
  | [], _ => rfl
  | (k, v) :: es, h => by
    simp only [List.map_cons, List.mem_cons, not_or] at h
    rw [put, if_neg (Ne.symm h.1), put_of_notMem h.2, List.cons_append]

theorem foldl_insert_of_nodup : ∀ {es : List (String × α)} {f : Fields α},
    ((f.entries ++ es).map Prod.fst).Nodup →
      es.foldl (fun f e => f.insert e.1 e.2) f = ⟨f.entries ++ es⟩
  | [], f, _ => by simp
  | (key, v) :: es, f, h => by
    have hkey : key ∉ f.entries.map Prod.fst := by
      intro hm
      rw [List.map_append] at h
      exact (List.nodup_append.mp h).2.2 key hm key (by simp) rfl
    have hinsert : f.insert key v = ⟨f.entries ++ [(key, v)]⟩ :=
      congrArg Fields.mk (put_of_notMem hkey)
    rw [List.foldl_cons, hinsert, foldl_insert_of_nodup (by simpa using h)]
    simp

/-- Fields with distinct names are collected as they are. -/
theorem Distinct.ofList_entries {f : Fields α} (h : f.Distinct) : ofList f.entries = f :=
  foldl_insert_of_nodup (f := Fields.empty) (by simpa [Fields.empty, Distinct, keys] using h)

/-- So are values put in under distinct names. -/
theorem foldl_insert_map {ι : Type} {names : List ι} {key : ι → String}
    (distinct : (names.map key).Nodup) (value : ι → α) :
    names.foldl (fun (f : Fields α) i => f.insert (key i) (value i)) .empty =
      ⟨names.map fun i => (key i, value i)⟩ := by
  have hmap : (⟨names.map fun i => (key i, value i)⟩ : Fields α).Distinct := by
    simpa [Distinct, keys, Function.comp_def] using distinct
  have h := hmap.ofList_entries
  rwa [ofList, List.foldl_map] at h

/-- Of the values that are inserted under a name the last one stands there. -/
theorem get?_foldl_insert_reverse (key : String) : ∀ (es : List (String × α)) (f : Fields α),
    (es.foldl (fun f e => f.insert e.1 e.2) f).get? key = (es.reverse.lookup key).or (f.get? key)
  | [], f => by simp
  | (k, v) :: es, f => by
    rw [List.foldl_cons, get?_foldl_insert_reverse key es, get?_insert, List.reverse_cons,
      List.lookup_append, Option.or_assoc]
    by_cases h : key = k
    · simp [h]
    · simp [h, List.lookup_cons, beq_false_of_ne h]

theorem mem_keys_foldl_insert {key : String} : ∀ (es : List (String × α)) (f : Fields α),
    key ∈ (es.foldl (fun f e => f.insert e.1 e.2) f).keys ↔ key ∈ f.keys ∨ key ∈ es.map Prod.fst
  | [], f => by simp
  | (k, v) :: es, f => by
    rw [List.foldl_cons, mem_keys_foldl_insert es, mem_keys_insert, List.map_cons, List.mem_cons,
      or_assoc]

end DocTables.Fields
