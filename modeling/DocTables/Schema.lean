/-
# Schemas

A schema is an ordered list of columns with distinct names and some metadata.  Adding a column whose
name is there replaces the column in its place.
-/
import DocTables.Column
import DocTables.Dictionary
import DocTables.Value

namespace DocTables

/-- The columns of a table. -/
structure Schema where
  columns : List Column
  metadata : Dictionary

namespace Schema

/-- A schema without columns. -/
def empty : Schema := ⟨[], .empty⟩

instance : Inhabited Schema := ⟨empty⟩

/-- The metadata key of the table that a schema was made for. -/
def sourceTableKey : String := "sourceTable"

/-- Put a column in the place of the column of its name, or at the end. -/
def put (column : Column) : List Column → List Column
  | [] => [column]
  | c :: rest => if c.name = column.name then column :: rest else c :: put column rest

/-- Add a column, replacing the column of the same name. -/
def upsert (s : Schema) (column : Column) : Schema := { s with columns := put column s.columns }

/-- Add columns one after another, starting from none. -/
def ofColumns (columns : List Column) : Schema := columns.foldl upsert empty

/-- The column of this name. -/
def column? (s : Schema) (name : String) : Option Column := s.columns.find? (·.name == name)

/-- The kind of the column of this name. -/
def kindOf? (s : Schema) (name : String) : Option Kind := (s.column? name).map (·.kind)

/-- The names of the columns in order. -/
def names (s : Schema) : List String := s.columns.map (·.name)

/-- The number of columns. -/
def size (s : Schema) : Nat := s.columns.length

/-- Whether there are no columns. -/
def isEmpty (s : Schema) : Bool := s.columns.isEmpty

/-- Set a metadata entry. -/
def withMetadata (s : Schema) (key text : String) : Schema :=
  { s with metadata := s.metadata.insert key text }

/-- The table that the schema was made for. -/
def sourceTable? (s : Schema) : Option String := s.metadata.get? sourceTableKey

/-- The projection that keeps exactly the columns of the schema. -/
def projection (s : Schema) : Document := Fields.ofList (s.names.map fun n => (n, .int32 1))

/-- No column name stands twice. -/
def Distinct (s : Schema) : Prop := s.names.Nodup

theorem names_put (column : Column) (cs : List Column) :
    (put column cs).map (·.name) =
      if column.name ∈ cs.map (·.name) then cs.map (·.name)
      else cs.map (·.name) ++ [column.name] := by
  induction cs with
  | nil => simp [put]
  | cons c cs ih =>
    by_cases h : c.name = column.name
    · simp [put, h]
    · have h' : ¬column.name = c.name := fun e => h e.symm
      simp only [put, h, if_false, List.map_cons, ih, List.mem_cons, h', false_or]
      split <;> simp

/-- Adding a column keeps the names distinct. -/
theorem Distinct.upsert {s : Schema} (h : s.Distinct) (column : Column) :
    (s.upsert column).Distinct := by
  unfold Distinct names Schema.upsert at *
  simp only [names_put]
  split
  · exact h
  · rename_i hn
    exact List.nodup_append.2 ⟨h, by simp, by
      intro a ha b hb
      simp only [List.mem_singleton] at hb
      subst hb
      exact fun e => hn (e ▸ ha)⟩

theorem put_of_notMem (column : Column) : ∀ {cs : List Column},
    column.name ∉ cs.map (·.name) → put column cs = cs ++ [column]
  | [], _ => rfl
  | c :: cs, h => by
    simp only [List.map_cons, List.mem_cons, not_or] at h
    rw [put, if_neg (Ne.symm h.1), put_of_notMem column h.2, List.cons_append]

theorem foldl_upsert : ∀ (cs : List Column) (s : Schema),
    (s.names ++ cs.map (·.name)).Nodup →
    cs.foldl Schema.upsert s = { s with columns := s.columns ++ cs }
  | [], s, _ => by simp
  | c :: cs, s, h => by
    have hc : c.name ∉ s.names := by
      intro hm
      exact (List.nodup_append.mp h).2.2 c.name hm c.name (by simp) rfl
    have hs : s.upsert c = { s with columns := s.columns ++ [c] } := by
      rw [Schema.upsert, put_of_notMem c hc]
    rw [List.foldl_cons, hs, foldl_upsert cs]
    · simp
    · simpa [names] using h

/-- Columns with distinct names are kept as they are. -/
theorem ofColumns_of_nodup {cs : List Column} (h : (cs.map (·.name)).Nodup) :
    ofColumns cs = ⟨cs, .empty⟩ := foldl_upsert cs empty h

end Schema

end DocTables
