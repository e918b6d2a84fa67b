/-
# Fields after a history of changes

A history is a list of changes, insertions and removals of any names.  What comes of it is told by
the insertions that stand, those whose name is not removed after them (`Stands`).  A name is there
if an insertion of it stands.  The first of them gives the name its place among the others
(`Enters`), the last one gives it its value (`Settles`).

`Follows` says that fields are so.  One more change keeps it (`Follows.insert`, `Follows.erase`), so
it holds after every history (`Follows.run`), and for fields that are collected from a list, which
are inserted one after another (`ofList_eq_run`).  Readers of documents rely on it: none of them
checks that the names are distinct.
-/
import DocTables.Proofs.Fields
import Mathlib.Data.Nat.Find

namespace DocTables.Fields

variable {α : Type}

/-! ## 1. One change -/

/-- A change to fields. -/
inductive Change (α : Type) where
  | insert (key : String) (value : α)
  | erase (key : String)

namespace Change

/-- The name that a change is about. -/
def key : Change α → String
  | .insert key _ => key
  | .erase key => key

/-- Make a change: the value that it displaces, and the fields after it. -/
def apply (f : Fields α) : Change α → Option α × Fields α
  | .insert key value => f.getThenInsert? key value
  | .erase key => f.getThenErase? key

theorem apply_insert (f : Fields α) (key : String) (value : α) :
    (Change.insert key value).apply f = (f.get? key, f.insert key value) :=
  f.getThenInsert?_eq key value

theorem apply_erase (f : Fields α) (key : String) :
    (Change.erase key).apply f = (f.get? key, f.erase key) := f.getThenErase?_eq key

theorem erase_ne_erase_iff {key other : String} :
    Change.erase key ≠ (.erase other : Change α) ↔ other ≠ key := by
  simp [eq_comm]

/-- A change gives what has been found under its name before. -/
theorem displaced_eq (f : Fields α) (c : Change α) : (c.apply f).1 = f.get? c.key := by
  cases c with
  | insert key value => rw [apply_insert, Change.key]
  | erase key => rw [apply_erase, Change.key]

/-- **A change** leaves the fields of other names as they are, in the same order. -/
theorem others_apply (f : Fields α) (c : Change α) :
    (c.apply f).2.others c.key = f.others c.key := by
  cases c with
  | insert key value =>
    rw [apply_insert]
    exact f.others_insert key value
  | erase key =>
    rw [apply_erase]
    exact f.others_erase key

theorem get?_apply_of_ne (f : Fields α) (c : Change α) {other : String} (h : other ≠ c.key) :
    (c.apply f).2.get? other = f.get? other := by
  rw [← get?_others _ h, others_apply, get?_others _ h]

theorem filter_keys_apply (f : Fields α) (c : Change α) :
    (c.apply f).2.keys.filter (· ≠ c.key) = f.keys.filter (· ≠ c.key) := by
  rw [← keys_others, others_apply, keys_others]

end Change

/-- The fields after changes, made one after another. -/
def run (f : Fields α) (changes : List (Change α)) : Fields α :=
  changes.foldl (fun f c => (c.apply f).2) f

/-- Fields are collected from a list by insertions. -/
theorem ofList_eq_run (es : List (String × α)) :
    ofList es = run .empty (es.map fun e => .insert e.1 e.2) := by
  simp only [ofList, run, List.foldl_map, Change.apply_insert]

/-! ## 2. The insertions that stand -/

section History

variable {history : List (Change α)} {c : Change α} {key : String} {place : Nat} {value : α}

/-- The change at this place of a history inserts the value under the name, and no later one removes
the name: it is an insertion since the last removal. -/
def Stands (history : List (Change α)) (key : String) (place : Nat) (value : α) : Prop :=
  history[place]? = some (.insert key value) ∧
    ∀ later, place < later → history[later]? ≠ some (.erase key)

/-- The first insertion of the name since its last removal is at this place. -/
def Enters (history : List (Change α)) (key : String) (place : Nat) : Prop :=
  (∃ value, Stands history key place value) ∧
    ∀ earlier, earlier < place → ∀ value, ¬Stands history key earlier value

/-- The last insertion of the name since its last removal is at this place and inserts the value. -/
def Settles (history : List (Change α)) (key : String) (place : Nat) (value : α) : Prop :=
  Stands history key place value ∧
    ∀ later, place < later → ∀ other, ¬Stands history key later other

theorem Stands.lt_length (h : Stands history key place value) : place < history.length :=
  (List.getElem?_eq_some_iff.mp h.1).1

theorem Enters.lt_length (h : Enters history key place) : place < history.length := by
  obtain ⟨⟨value, hstands⟩, -⟩ := h
  exact hstands.lt_length

/-- If an insertion of a name stands, one of them is the first. -/
theorem exists_enters (h : ∃ place value, Stands history key place value) :
    ∃ place, Enters history key place := by
  classical
  exact ⟨Nat.find h, Nat.find_spec h,
    fun _ hearlier value hstands => Nat.find_min h hearlier ⟨value, hstands⟩⟩

theorem getElem?_concat_eq_some_iff {changed : Change α} :
    (history ++ [c])[place]? = some changed ↔
      history[place]? = some changed ∨ (place = history.length ∧ c = changed) := by
  grind

/-- One more change takes away the insertions of the name that it removes, and adds one if it is an
insertion. -/
theorem stands_concat : Stands (history ++ [c]) key place value ↔
    (Stands history key place value ∧ c ≠ .erase key) ∨
      (place = history.length ∧ c = .insert key value) := by
  constructor
  · rintro ⟨hplace, hlater⟩
    rcases getElem?_concat_eq_some_iff.mp hplace with hold | hnew
    · refine .inl ⟨⟨hold, fun later hgt hlast => ?_⟩, fun hc => ?_⟩
      · exact hlater later hgt (getElem?_concat_eq_some_iff.mpr (.inl hlast))
      · have hlt : place < history.length := (List.getElem?_eq_some_iff.mp hold).1
        exact hlater history.length hlt (getElem?_concat_eq_some_iff.mpr (.inr ⟨rfl, hc⟩))
    · exact .inr hnew
  · rintro (⟨⟨hold, hlater⟩, hc⟩ | ⟨rfl, rfl⟩)
    · refine ⟨getElem?_concat_eq_some_iff.mpr (.inl hold), fun later hgt hlast => ?_⟩
      rcases getElem?_concat_eq_some_iff.mp hlast with hlast | ⟨-, hnew⟩
      · exact hlater later hgt hlast
      · exact hc hnew
    · refine ⟨getElem?_concat_eq_some_iff.mpr (.inr ⟨rfl, rfl⟩), fun later hgt hlast => ?_⟩
      rcases getElem?_concat_eq_some_iff.mp hlast with hlast | ⟨rfl, -⟩
      · exact Nat.lt_asymm hgt (List.getElem?_eq_some_iff.mp hlast).1
      · exact Nat.lt_irrefl _ hgt

/-- So a name is there after one more change if it has been there and is not removed, or if it is
inserted. -/
theorem exists_stands_concat : (∃ place value, Stands (history ++ [c]) key place value) ↔
    ((∃ place value, Stands history key place value) ∧ c ≠ .erase key) ∨
      ∃ value, c = .insert key value := by
  constructor
  · rintro ⟨place, value, hstands⟩
    rcases stands_concat.mp hstands with ⟨hold, hc⟩ | ⟨-, hnew⟩
    · exact .inl ⟨⟨place, value, hold⟩, hc⟩
    · exact .inr ⟨value, hnew⟩
  · rintro (⟨⟨place, value, hold⟩, hc⟩ | ⟨value, hnew⟩)
    · exact ⟨place, value, stands_concat.mpr (.inl ⟨hold, hc⟩)⟩
    · exact ⟨history.length, value, stands_concat.mpr (.inr ⟨rfl, hnew⟩)⟩

theorem enters_concat : Enters (history ++ [c]) key place ↔
    (Enters history key place ∧ c ≠ .erase key) ∨
      (place = history.length ∧ (∃ value, c = .insert key value) ∧
        ∀ earlier value, ¬Stands history key earlier value) := by
  constructor
  · rintro ⟨⟨value, hstands⟩, hfirst⟩
    rcases stands_concat.mp hstands with ⟨hold, hc⟩ | ⟨rfl, rfl⟩
    · refine .inl ⟨⟨⟨value, hold⟩, fun earlier hlt other hother => ?_⟩, hc⟩
      exact hfirst earlier hlt other (stands_concat.mpr (.inl ⟨hother, hc⟩))
    · refine .inr ⟨rfl, ⟨value, rfl⟩, fun earlier other hother => ?_⟩
      exact hfirst earlier hother.lt_length other (stands_concat.mpr (.inl ⟨hother, nofun⟩))
  · rintro (⟨⟨⟨value, hold⟩, hfirst⟩, hc⟩ | ⟨rfl, ⟨value, rfl⟩, hnone⟩)
    · refine ⟨⟨value, stands_concat.mpr (.inl ⟨hold, hc⟩)⟩, fun earlier hlt other hother => ?_⟩
      rcases stands_concat.mp hother with ⟨hother, -⟩ | ⟨rfl, -⟩
      · exact hfirst earlier hlt other hother
      · exact Nat.lt_asymm hlt hold.lt_length
    · refine ⟨⟨value, stands_concat.mpr (.inr ⟨rfl, rfl⟩)⟩, fun earlier hlt other hother => ?_⟩
      rcases stands_concat.mp hother with ⟨hother, -⟩ | ⟨rfl, -⟩
      · exact hnone earlier other hother
      · exact Nat.lt_irrefl _ hlt

theorem settles_concat : Settles (history ++ [c]) key place value ↔
    (Settles history key place value ∧ c.key ≠ key) ∨
      (place = history.length ∧ c = .insert key value) := by
  constructor
  · rintro ⟨hstands, hlast⟩
    rcases stands_concat.mp hstands with ⟨hold, hc⟩ | hnew
    · refine .inl ⟨⟨hold, fun later hgt other hother => ?_⟩, fun hkey => ?_⟩
      · exact hlast later hgt other (stands_concat.mpr (.inl ⟨hother, hc⟩))
      · cases c with
        | insert k other =>
          -- An insertion of the same name would be a later one that stands.
          obtain rfl : k = key := hkey
          exact hlast _ hold.lt_length other (stands_concat.mpr (.inr ⟨rfl, rfl⟩))
        | erase k =>
          obtain rfl : k = key := hkey
          exact hc rfl
    · exact .inr hnew
  · rintro (⟨⟨hold, hlast⟩, hkey⟩ | ⟨rfl, rfl⟩)
    · refine ⟨stands_concat.mpr (.inl ⟨hold, fun hc => hkey (hc ▸ rfl)⟩),
        fun later hgt other hother => ?_⟩
      rcases stands_concat.mp hother with ⟨hother, -⟩ | ⟨-, rfl⟩
      · exact hlast later hgt other hother
      · exact hkey rfl
    · refine ⟨stands_concat.mpr (.inr ⟨rfl, rfl⟩), fun later hgt other hother => ?_⟩
      rcases stands_concat.mp hother with ⟨hother, -⟩ | ⟨rfl, -⟩
      · exact Nat.lt_asymm hgt hother.lt_length
      · exact Nat.lt_irrefl _ hgt

end History

/-! ## 3. Fields that follow a history -/

/-- Fields are what comes of a history. -/
structure Follows (history : List (Change α)) (f : Fields α) : Prop where
  distinct : f.Distinct
  /-- A name is there if it has been inserted since its last removal. -/
  mem_keys_iff (key : String) : key ∈ f.keys ↔ ∃ place value, Stands history key place value
  /-- The names are in the order of their first insertions since their last removals. -/
  ordered : f.keys.Pairwise fun first second =>
    ∃ i j, Enters history first i ∧ Enters history second j ∧ i < j
  /-- The value of a name is that of its last insertion since its last removal. -/
  get?_eq_some_iff (key : String) (value : α) :
    f.get? key = some value ↔ ∃ place, Settles history key place value

namespace Follows

variable {history : List (Change α)} {f : Fields α}

theorem empty : Follows [] (Fields.empty : Fields α) where
  distinct := Distinct.empty
  mem_keys_iff key := by simp [keys, Fields.empty, Stands]
  ordered := List.Pairwise.nil
  get?_eq_some_iff key value := by simp [get?, Fields.empty, Settles, Stands]

theorem insert (h : Follows history f) (key : String) (value : α) :
    Follows (history ++ [.insert key value]) (f.insert key value) where
  distinct := h.distinct.insert key value
  mem_keys_iff other := by
    have hkey : other = key ↔ ∃ v, Change.insert key value = .insert other v := by
      simp [eq_comm]
    rw [mem_keys_insert, h.mem_keys_iff, exists_stands_concat, hkey]
    simp
  ordered := by
    have hold : f.keys.Pairwise fun first second => ∃ i j,
        Enters (history ++ [.insert key value]) first i ∧
          Enters (history ++ [.insert key value]) second j ∧ i < j :=
      h.ordered.imp fun ⟨i, j, hi, hj, hlt⟩ =>
        ⟨i, j, enters_concat.mpr (.inl ⟨hi, nofun⟩), enters_concat.mpr (.inl ⟨hj, nofun⟩), hlt⟩
    rw [keys_insert]
    split
    · exact hold
    · rename_i hnew
      -- The new name enters at the end of the history, behind the places of all that are there.
      refine List.pairwise_append.mpr ⟨hold, List.pairwise_singleton _ _, ?_⟩
      intro first hfirst second hsecond
      obtain rfl : second = key := List.mem_singleton.mp hsecond
      obtain ⟨i, hi⟩ := exists_enters ((h.mem_keys_iff first).mp hfirst)
      have hnone (place : Nat) (v : α) : ¬Stands history second place v :=
        fun hstands => hnew ((h.mem_keys_iff second).mpr ⟨place, v, hstands⟩)
      exact ⟨i, history.length, enters_concat.mpr (.inl ⟨hi, nofun⟩),
        enters_concat.mpr (.inr ⟨rfl, ⟨value, rfl⟩, hnone⟩), hi.lt_length⟩
  get?_eq_some_iff other v := by
    by_cases hother : other = key
    · subst hother
      simp [settles_concat, Change.key]
    · rw [get?_insert_of_ne f hother, h.get?_eq_some_iff]
      simp [settles_concat, Change.key, Ne.symm hother]

theorem erase (h : Follows history f) (key : String) :
    Follows (history ++ [.erase key]) (f.erase key) where
  distinct := h.distinct.erase key
  mem_keys_iff other := by
    rw [h.distinct.mem_keys_erase, h.mem_keys_iff, exists_stands_concat,
      Change.erase_ne_erase_iff]
    simp
  ordered := by
    rw [h.distinct.keys_erase]
    -- Only the names that are left keep their places, so the step needs to know that they are left.
    refine (h.ordered.filter _).imp_of_mem ?_
    rintro first second hfirst hsecond ⟨i, j, hi, hj, hlt⟩
    have hkept {name : String} (hname : name ∈ f.keys.filter (· != key)) :
        Change.erase key ≠ (.erase name : Change α) :=
      Change.erase_ne_erase_iff.mpr (bne_iff_ne.mp (List.mem_filter.mp hname).2)
    exact ⟨i, j, enters_concat.mpr (.inl ⟨hi, hkept hfirst⟩),
      enters_concat.mpr (.inl ⟨hj, hkept hsecond⟩), hlt⟩
  get?_eq_some_iff other v := by
    by_cases hother : other = key
    · subst hother
      have hnone : (f.erase other).get? other = none :=
        get?_eq_none_iff.mpr fun hmem => (h.distinct.mem_keys_erase.mp hmem).2 rfl
      simp [hnone, settles_concat, Change.key]
    · have hsame := (Change.erase key).get?_apply_of_ne f hother
      rw [Change.apply_erase] at hsame
      rw [hsame, h.get?_eq_some_iff]
      simp [settles_concat, Change.key, Ne.symm hother]

theorem concat (h : Follows history f) (c : Change α) :
    Follows (history ++ [c]) (c.apply f).2 := by
  cases c with
  | insert key value =>
    rw [Change.apply_insert]
    exact h.insert key value
  | erase key =>
    rw [Change.apply_erase]
    exact h.erase key

/-- **Fields follow a history** as long as it goes on. -/
theorem run (h : Follows history f) (changes : List (Change α)) :
    Follows (history ++ changes) (f.run changes) := by
  induction changes generalizing history f with
  | nil => simpa [Fields.run] using h
  | cons c changes ih =>
    rw [List.append_cons, Fields.run, List.foldl_cons]
    exact ih (h.concat c)

end Follows

/-- **Fields after any history.**  Fields that are collected from a list, or from none, and then
changed have distinct names.  The names are in the order of their first insertions since their last
removals, and the value of each is that of its last insertion since then.  One more change gives
what has been found under its name before, and leaves the values and the order of the other names as
they are.  Ignoring case, what stands under the exact name is found, failing that the value of the
first name in this order that differs in ASCII case only. -/
theorem follows_run_ofList (es : List (String × α)) (changes : List (Change α)) :
    let f := (ofList es).run changes
    Follows (es.map (fun e => .insert e.1 e.2) ++ changes) f ∧
      (∀ c : Change α, (c.apply f).1 = f.get? c.key ∧
        (∀ other, other ≠ c.key → (c.apply f).2.get? other = f.get? other) ∧
        (c.apply f).2.keys.filter (· ≠ c.key) = f.keys.filter (· ≠ c.key)) ∧
      ∀ key, f.getIgnoreCase? key =
        (f.get? key).or ((f.keys.find? fun name => Text.eqIgnoreCase name key).bind f.get?) := by
  intro f
  have hlist : Follows (es.map fun e => .insert e.1 e.2) (ofList es) := by
    rw [ofList_eq_run]
    exact Follows.empty.run _
  have hf : Follows (es.map (fun e => .insert e.1 e.2) ++ changes) f := hlist.run changes
  exact ⟨hf, fun c => ⟨c.displaced_eq f, fun _ => c.get?_apply_of_ne f, c.filter_keys_apply f⟩,
    hf.distinct.getIgnoreCase?_eq⟩

/-- A name that is removed and put back comes after the others, and inserting another name leaves it
alone. -/
theorem follows_run_ofList_putBack :
    "b" ≠ (Change.insert "a" 5).key ∧
      ((ofList [("b", 1), ("a", 2)]).run [.erase "b", .insert "b" 3]).keys = ["a", "b"] ∧
      ((Change.insert "a" 5).apply
        ((ofList [("b", 1), ("a", 2)]).run [.erase "b", .insert "b" 3])).2.get? "b" = some 3 :=
  have hfollows := follows_run_ofList [("b", 1), ("a", 2)] [.erase "b", .insert "b" 3]
  have hother := (hfollows.2.1 (.insert "a" 5)).2.1 "b" (by decide)
  ⟨by decide, by decide, hother.trans (by decide)⟩

end DocTables.Fields
