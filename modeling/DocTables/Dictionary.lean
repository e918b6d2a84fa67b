/-
# Text under sorted keys

Catalog parameters, schema metadata, captured placeholders and the connections of a configuration
are kept sorted by key, in the order of code points, each key once.  `ascending_put` says that an
insertion keeps the keys ascending, so a dictionary carries the proof.
-/

namespace DocTables

namespace Dictionary

/-- Put a text under a key, in front of the first greater key. -/
def put (key text : String) : List (String × String) → List (String × String)
  | [] => [(key, text)]
  | (k, v) :: rest =>
    if key = k then (key, text) :: rest
    else if key < k then (key, text) :: (k, v) :: rest
    else (k, v) :: put key text rest

/-- The keys ascend strictly. -/
def Ascending (es : List (String × String)) : Prop := (es.map Prod.fst).Pairwise (· < ·)

instance (es : List (String × String)) : Decidable (Ascending es) :=
  inferInstanceAs (Decidable (List.Pairwise _ _))

theorem mem_keys_put {key text k : String} {es : List (String × String)}
    (h : k ∈ (put key text es).map Prod.fst) : k = key ∨ k ∈ es.map Prod.fst := by
  induction es with
  | nil => simpa [put] using h
  | cons e es ih =>
    obtain ⟨k', v⟩ := e
    rw [put] at h
    split at h
    · rename_i heq
      simp only [List.map_cons, List.mem_cons] at h ⊢
      exact h.elim Or.inl fun h => Or.inr (Or.inr h)
    · split at h
      · simpa using h
      · simp only [List.map_cons, List.mem_cons] at h ⊢
        rcases h with h | h
        · exact Or.inr (Or.inl h)
        · exact (ih h).elim Or.inl fun h => Or.inr (Or.inr h)

/-- Insertion keeps the keys ascending. -/
theorem ascending_put {es : List (String × String)} (h : Ascending es) (key text : String) :
    Ascending (put key text es) := by
  unfold Ascending at *
  induction es with
  | nil => simp [put]
  | cons e es ih =>
    obtain ⟨k, v⟩ := e
    simp only [List.map_cons, List.pairwise_cons] at h
    rw [put]
    split
    · rename_i heq
      subst heq
      simpa using h
    · rename_i hne
      split
      · rename_i hlt
        simp only [List.map_cons, List.pairwise_cons, List.mem_cons]
        refine ⟨?_, h⟩
        rintro a (rfl | ha)
        · exact hlt
        · exact String.lt_trans hlt (h.1 a ha)
      · rename_i hnlt
        simp only [List.map_cons, List.pairwise_cons]
        refine ⟨fun a ha => ?_, ih h.2⟩
        rcases mem_keys_put ha with rfl | ha
        · exact Decidable.byContradiction fun hn =>
            hne (String.le_antisymm (String.not_lt.1 hn) (String.not_lt.1 hnlt))
        · exact h.1 a ha

end Dictionary

/-- Texts under keys in ascending order. -/
structure Dictionary where
  entries : List (String × String)
  ascending : Dictionary.Ascending entries
deriving DecidableEq

namespace Dictionary

/-- No entries. -/
def empty : Dictionary := ⟨[], List.Pairwise.nil⟩

instance : Inhabited Dictionary := ⟨empty⟩

/-- Whether there are no entries. -/
def isEmpty (d : Dictionary) : Bool := d.entries.isEmpty

/-- The text under a key. -/
def get? (d : Dictionary) (key : String) : Option String := d.entries.lookup key

/-- Whether there is an entry under the key. -/
def contains (d : Dictionary) (key : String) : Bool := (d.get? key).isSome

/-- Insert an entry, replacing the one under the same key. -/
def insert (d : Dictionary) (key text : String) : Dictionary :=
  ⟨put key text d.entries, ascending_put d.ascending key text⟩

theorem get?_insert_self (d : Dictionary) (key text : String) :
    (d.insert key text).get? key = some text := by
  have h (es : List (String × String)) : (put key text es).lookup key = some text := by
    induction es with
    | nil => simp [put]
    | cons e es ih =>
      rw [put]
      split
      · simp
      · rename_i hne
        split
        · simp
        · rw [List.lookup_cons, beq_false_of_ne hne, ih]
  exact h d.entries

theorem get?_insert_of_ne (d : Dictionary) {key k : String} (hk : k ≠ key) (text : String) :
    (d.insert key text).get? k = d.get? k := by
  have h (es : List (String × String)) : (put key text es).lookup k = es.lookup k := by
    induction es with
    | nil => rw [put, List.lookup_cons, beq_false_of_ne hk]
    | cons e es ih =>
      obtain ⟨first, old⟩ := e
      rw [put]
      split
      · rename_i heq
        subst heq
        simp only [List.lookup_cons, beq_false_of_ne hk]
      · split
        · rw [List.lookup_cons, beq_false_of_ne hk]
        · rw [List.lookup_cons, List.lookup_cons, ih]
  exact h d.entries

/-- Insert entries one after another, starting from none. -/
def ofList (entries : List (String × String)) : Dictionary :=
  entries.foldl (fun d e => d.insert e.1 e.2) empty

end Dictionary

end DocTables
