/-
# Named fields in order of insertion

A document keeps its fields in the order in which they were first inserted; a field that is
inserted again keeps its place and takes the new value.  The same container serves documents, JSON
objects read from text and the fields of inferred structs.

The view of `Fields` is `get?`: `get?_insert_self` and `get?_insert_of_ne` say what `insert` does to
it, `keys_insert` what it does to the order.  `Fields.Distinct` says that no name stands twice;
every operation keeps it (`Distinct.insert`, `Distinct.erase`).

A caller that wants the value which an operation displaces has it from `getThenInsert?` and
`getThenErase?`, which look for the place of the name once.  They give what `get?` finds and leave
what `insert` and `erase` leave (`getThenInsert?_eq`, `getThenErase?_eq`).
-/
import DocTables.Text.Ascii

namespace DocTables

/-- A list of named values. -/
structure Fields (α : Type) where
  entries : List (String × α)
deriving Repr

namespace Fields

variable {α : Type}

/-- No fields. -/
def empty : Fields α := ⟨[]⟩

instance : Inhabited (Fields α) := ⟨empty⟩

/-- The names in order. -/
def keys (f : Fields α) : List String := f.entries.map Prod.fst

/-- The number of fields. -/
def size (f : Fields α) : Nat := f.entries.length

/-- Whether there are no fields. -/
def isEmpty (f : Fields α) : Bool := f.entries.isEmpty

/-- The value of the field of exactly this name. -/
def get? (f : Fields α) (key : String) : Option α := f.entries.lookup key

/-- Whether there is a field of exactly this name. -/
def contains (f : Fields α) (key : String) : Bool := (f.get? key).isSome

/-- The value of the field of this name; failing that, of the first field whose name differs in
ASCII case only. -/
def getIgnoreCase? (f : Fields α) (key : String) : Option α :=
  match f.get? key with
  | some v => some v
  | none => (f.entries.find? fun e => Text.eqIgnoreCase e.1 key).map Prod.snd

/-- Put a value under a name: in place if the name is there, at the end if not. -/
def put (key : String) (value : α) : List (String × α) → List (String × α)
  | [] => [(key, value)]
  | (k, v) :: rest => if k = key then (k, value) :: rest else (k, v) :: put key value rest

/-- Insert a field, replacing a field of the same name where it stands. -/
def insert (f : Fields α) (key : String) (value : α) : Fields α := ⟨put key value f.entries⟩

/-- Change the value under a name, or append a value for a name that is not there. -/
def alterEntries (key : String) (f : Option α → α) : List (String × α) → List (String × α)
  | [] => [(key, f none)]
  | (k, v) :: rest => if k = key then (k, f (some v)) :: rest else (k, v) :: alterEntries key f rest

/-- Remove the field of this name, if there is one. -/
def erase (f : Fields α) (key : String) : Fields α := ⟨f.entries.eraseP fun e => e.1 == key⟩

/-- Where the field of exactly this name stands. -/
def place? (f : Fields α) (key : String) : Option (Fin f.entries.length) :=
  f.entries.findFinIdx? fun e => e.1 == key

/-- Insert a field and give the value that it replaces, if there is one. -/
def getThenInsert? (f : Fields α) (key : String) (value : α) : Option α × Fields α :=
  match f.place? key with
  | some i => (some f.entries[i].2, ⟨f.entries.set i (f.entries[i].1, value)⟩)
  | none => (none, ⟨f.entries ++ [(key, value)]⟩)

/-- Remove the field of this name and give its value, if there is one. -/
def getThenErase? (f : Fields α) (key : String) : Option α × Fields α :=
  match f.place? key with
  | some i => (some f.entries[i].2, ⟨f.entries.eraseIdx i⟩)
  | none => (none, f)

/-- Insert fields one after another, starting from none. -/
def ofList (entries : List (String × α)) : Fields α :=
  entries.foldl (fun f e => f.insert e.1 e.2) empty

/-- No name stands twice. -/
def Distinct (f : Fields α) : Prop := f.keys.Nodup

/-! ## 1. What an insertion does -/

theorem lookup_alterEntries_self (key : String) (f : Option α → α) (es : List (String × α)) :
    (alterEntries key f es).lookup key = some (f (es.lookup key)) := by
  induction es with
  | nil => simp [alterEntries]
  | cons e es ih =>
    obtain ⟨k, v⟩ := e
    by_cases h : k = key
    · simp [alterEntries, h]
    · have h' : (key == k) = false := beq_eq_false_iff_ne.2 fun e => h e.symm
      simp [alterEntries, h, List.lookup_cons, h', ih]

theorem lookup_alterEntries_of_ne {key other : String} (h : other ≠ key) (f : Option α → α)
    (es : List (String × α)) : (alterEntries key f es).lookup other = es.lookup other := by
  induction es with
  | nil =>
    have h' : (other == key) = false := by simpa using h
    simp [alterEntries, List.lookup_cons, h']
  | cons e es ih =>
    obtain ⟨k, v⟩ := e
    by_cases hk : k = key
    · subst hk
      have h' : (other == k) = false := by simpa using h
      simp [alterEntries, List.lookup_cons, h']
    · simp [alterEntries, hk, List.lookup_cons, ih]

theorem keys_alterEntries (key : String) (f : Option α → α) (es : List (String × α)) :
    (alterEntries key f es).map Prod.fst =
      if key ∈ es.map Prod.fst then es.map Prod.fst else es.map Prod.fst ++ [key] := by
  induction es with
  | nil => simp [alterEntries]
  | cons e es ih =>
    obtain ⟨k, v⟩ := e
    by_cases hk : k = key
    · simp [alterEntries, hk]
    · have hk' : ¬key = k := fun h => hk h.symm
      simp only [alterEntries, hk, if_false, List.map_cons, ih, List.mem_cons, hk', false_or]
      split <;> simp

/-- An insertion is a change to a value that does not look at the old one. -/
theorem put_eq_alterEntries (key : String) (value : α) (es : List (String × α)) :
    put key value es = alterEntries key (fun _ => value) es := by
  induction es with
  | nil => rfl
  | cons e es ih => simp only [put, alterEntries, ih]

@[simp] theorem get?_insert_self (f : Fields α) (key : String) (value : α) :
    (f.insert key value).get? key = some value := by
  rw [get?, insert, put_eq_alterEntries, lookup_alterEntries_self]

theorem get?_insert_of_ne (f : Fields α) {key other : String} (h : other ≠ key) (value : α) :
    (f.insert key value).get? other = f.get? other := by
  rw [get?, insert, put_eq_alterEntries, lookup_alterEntries_of_ne h, get?]

/-- A new name goes to the end; a name that is there keeps its place. -/
theorem keys_insert (f : Fields α) (key : String) (value : α) :
    (f.insert key value).keys = if key ∈ f.keys then f.keys else f.keys ++ [key] := by
  rw [keys, insert, put_eq_alterEntries, keys_alterEntries, keys]

/-! ## 2. The value that is displaced -/

theorem val_place? (f : Fields α) (key : String) :
    (f.place? key).map Fin.val = f.entries.findIdx? fun e => e.1 == key :=
  List.findIdx?_eq_map_findFinIdx?_val.symm

theorem key_of_place? {f : Fields α} {key : String} {i : Fin f.entries.length}
    (h : f.place? key = some i) : f.entries[i].1 = key :=
  eq_of_beq (List.findFinIdx?_eq_some_iff.1 h).1

theorem get?_eq_place? (f : Fields α) (key : String) :
    f.get? key = (f.place? key).map fun i => f.entries[i].2 := by
  have hfind (es : List (String × α)) :
      es.lookup key = (es.find? fun e => e.1 == key).map Prod.snd := by
    induction es with
    | nil => rfl
    | cons e es ih =>
      rw [List.lookup_cons, List.find?_cons, BEq.comm (a := key), ih]
      cases e.1 == key <;> rfl
  rw [get?, hfind, List.find?_eq_map_findFinIdx?_getElem, Option.map_map]
  rfl

theorem put_eq (key : String) (value : α) (es : List (String × α)) :
    put key value es =
      match es.findIdx? fun e => e.1 == key with
      | some i => es.set i (key, value)
      | none => es ++ [(key, value)] := by
  induction es with
  | nil => rfl
  | cons e es ih =>
    obtain ⟨k, v⟩ := e
    by_cases hk : k = key
    · simp [put, List.findIdx?_cons, hk]
    · rw [put, if_neg hk, ih, List.findIdx?_cons]
      cases es.findIdx? fun e => e.1 == key <;> simp [hk]

theorem getThenInsert?_eq (f : Fields α) (key : String) (value : α) :
    f.getThenInsert? key value = (f.get? key, f.insert key value) := by
  rw [getThenInsert?, get?_eq_place?, insert, put_eq, ← val_place?]
  cases h : f.place? key with
  | some i => simp only [Option.map_some, key_of_place? h]
  | none => rfl

theorem getThenErase?_eq (f : Fields α) (key : String) :
    f.getThenErase? key = (f.get? key, f.erase key) := by
  rw [getThenErase?, get?_eq_place?, erase, List.eraseP_eq_eraseIdx, ← val_place?]
  cases f.place? key <;> rfl

/-! ## 3. Names stay distinct -/

theorem Distinct.empty : (Fields.empty : Fields α).Distinct := List.nodup_nil

theorem nodup_alterEntries {es : List (String × α)} (h : (es.map Prod.fst).Nodup) (key : String)
    (f : Option α → α) : ((alterEntries key f es).map Prod.fst).Nodup := by
  rw [keys_alterEntries]
  split
  · exact h
  · rename_i hk
    refine List.nodup_append.2 ⟨h, by simp, ?_⟩
    intro a ha b hb hab
    rw [List.mem_singleton.1 hb] at hab
    exact hk (hab ▸ ha)

theorem Distinct.insert {f : Fields α} (h : f.Distinct) (key : String) (value : α) :
    (f.insert key value).Distinct := by
  rw [Distinct, keys, Fields.insert, put_eq_alterEntries]
  exact nodup_alterEntries h key _

theorem Distinct.erase {f : Fields α} (h : f.Distinct) (key : String) :
    (f.erase key).Distinct := by
  have hs : ((f.erase key).keys).Sublist f.keys := List.eraseP_sublist.map Prod.fst
  exact hs.nodup h

/-- Fields collected from a list have distinct names. -/
theorem distinct_ofList (es : List (String × α)) : (ofList es).Distinct := by
  suffices h : ∀ (es : List (String × α)) (f : Fields α), f.Distinct →
      (es.foldl (fun f e => f.insert e.1 e.2) f).Distinct from h es Fields.empty Distinct.empty
  intro es
  induction es with
  | nil => exact fun f hf => hf
  | cons e es ih => exact fun f hf => ih (f.insert e.1 e.2) (hf.insert e.1 e.2)

end Fields

end DocTables
