/-
# Columns and kinds are read back from JSON

A column is written as an object that holds the members of its kind between its own, and its kind
may hold columns again.  What the members of an object say is gathered run by run
(`Column.sketch_append`), and the members of a kind tell the kind and nothing about the column that
has it (`Column.Sketch.Tells`); so the column is read from its object whatever the kind is.  The
induction goes over kinds and lists of columns together (`Column.tells_members`).
-/
import DocTables.Column.Json
import DocTables.Proofs.Json.Reading
import Mathlib.Tactic.SplitIfs

namespace DocTables

namespace Column

open Kind (columnToJson columnsToJson)

/-! ## 1. What members say -/

/-- What two runs of members say, one after the other. -/
def Sketch.append (s t : Sketch) : Sketch :=
  ⟨s.names ++ t.names, s.nullables ++ t.nullables, s.types ++ t.types, s.elements ++ t.elements,
    s.fields ++ t.fields⟩

theorem sketch_append (before after : List (String × Json)) :
    sketch (before ++ after) = (sketch before).append (sketch after) := by
  induction before with
  | nil => rfl
  | cons member before ih =>
    obtain ⟨name, j⟩ := member
    rw [List.cons_append, sketch, sketch, ih]
    split_ifs <;> rfl

/-- The name of the type of a kind. -/
def typeName : Kind → String
  | .string => "string"
  | .int32 => "int32"
  | .int64 => "int64"
  | .float32 => "float32"
  | .float64 => "float64"
  | .boolean => "boolean"
  | .timestamp => "timestamp"
  | .list _ => "list"
  | .struct _ => "struct"

/-- Members say what a kind is, and nothing about the column that has it. -/
structure Sketch.Tells (s : Sketch) (k : Kind) : Prop where
  names : s.names = []
  nullables : s.nullables = []
  types : s.types = [.string (typeName k)]
  kind : ∀ t : Sketch, t.elements = s.elements → t.fields = s.fields →
    t.kindNamed? (typeName k) = some k

/-- With its name in front and whether it is nullable behind, the members of its kind make a
column. -/
theorem Sketch.Tells.column? {members : List (String × Json)} {k : Kind}
    (h : (sketch members).Tells k) (name : String) (nullable : Bool) :
    (sketch (("name", .string name) :: members ++ [("nullable", .bool nullable)])).column? =
      some ⟨name, k, nullable⟩ := by
  have hname : sketch [("name", .string name)] = ⟨[.string name], [], [], [], []⟩ := rfl
  have hnullable : sketch [("nullable", .bool nullable)] = ⟨[], [.bool nullable], [], [], []⟩ := rfl
  rw [← List.singleton_append, sketch_append, sketch_append, hname, hnullable]
  generalize sketch members = s at h
  obtain ⟨names, nullables, types, elements, fields⟩ := s
  obtain rfl : names = [] := h.names
  obtain rfl : nullables = [] := h.nullables
  obtain rfl : types = [.string (typeName k)] := h.types
  simp [Sketch.column?, append, typeName?, h.kind]

/-! ## 2. Kinds, columns and lists of columns -/

mutual

/-- **The members of a kind tell the kind.** -/
theorem tells_members : ∀ k : Kind, (sketch k.members).Tells k
  | .string | .int32 | .int64 | .float32 | .float64 | .boolean | .timestamp =>
    ⟨rfl, rfl, rfl, fun _ _ _ => rfl⟩
  | .list c => by
    have hsketch : sketch (Kind.list c).members = ⟨[], [], [.string "list"], [some c], []⟩ := by
      simp [Kind.members, sketch, ofJson?_columnToJson c, Sketch.empty]
    rw [hsketch]
    exact ⟨rfl, rfl, rfl, fun t helements _ => by simp [Sketch.kindNamed?, typeName, helements]⟩
  | .struct cs => by
    have hsketch : sketch (Kind.struct cs).members =
        ⟨[], [], [.string "struct"], [], [some cs]⟩ := by
      simp [Kind.members, sketch, listOfJson?, itemsOfJson?_columnsToJson cs, Sketch.empty]
    rw [hsketch]
    exact ⟨rfl, rfl, rfl, fun t _ hfields => by simp [Sketch.kindNamed?, typeName, hfields]⟩

theorem ofJson?_columnToJson : ∀ c : Column, ofJson? (columnToJson c) = some c
  | ⟨name, kind, nullable⟩ => by
    rw [columnToJson, ofJson?]
    exact (tells_members kind).column? name nullable

theorem itemsOfJson?_columnsToJson : ∀ cs : List Column,
    itemsOfJson? (columnsToJson cs) = some cs
  | [] => rfl
  | c :: cs => by
    rw [columnsToJson, itemsOfJson?, ofJson?_columnToJson c, itemsOfJson?_columnsToJson cs]

end

theorem ofJson?_toJson (c : Column) : ofJson? c.toJson = some c := ofJson?_columnToJson c

theorem columnsToJson_eq_map : ∀ cs : List Column, columnsToJson cs = cs.map toJson
  | [] => rfl
  | c :: cs => congrArg (c.toJson :: ·) (columnsToJson_eq_map cs)

theorem listOfJson?_toJson (cs : List Column) :
    listOfJson? (.array (cs.map toJson)) = some cs := by
  rw [← columnsToJson_eq_map]
  exact itemsOfJson?_columnsToJson cs

end Column

theorem Kind.ofJson?_toJson (k : Kind) : ofJson? k.toJson = some k := by
  have htells := Column.tells_members k
  rw [toJson, ofJson?, htells.types]
  exact htells.kind _ rfl rfl

/-! ## 3. No numbers -/

namespace Column

open Json (NumberFree)

mutual

theorem numberFree_members : ∀ k : Kind, ∀ e ∈ k.members, NumberFree e.2
  | .string | .int32 | .int64 | .float32 | .float64 | .boolean | .timestamp => by
    simp [Kind.members, NumberFree.string]
  | .list c => by
    simp [Kind.members, NumberFree.string, numberFree_columnToJson c]
  | .struct cs => by
    simp [Kind.members, NumberFree.string, NumberFree.array (numberFree_columnsToJson cs)]

theorem numberFree_columnToJson : ∀ c : Column, NumberFree (Kind.columnToJson c)
  | ⟨name, kind, nullable⟩ => by
    refine .object fun e he => ?_
    rw [List.cons_append, List.mem_cons, List.mem_append, List.mem_singleton] at he
    rcases he with rfl | he | rfl
    · exact .string name
    · exact numberFree_members kind e he
    · exact .bool nullable

theorem numberFree_columnsToJson : ∀ cs : List Column, ∀ j ∈ Kind.columnsToJson cs, NumberFree j
  | [] => by simp [Kind.columnsToJson]
  | c :: cs => List.forall_mem_cons.mpr ⟨numberFree_columnToJson c, numberFree_columnsToJson cs⟩

end

theorem numberFree_toJson (c : Column) : NumberFree c.toJson := numberFree_columnToJson c

end Column

theorem Kind.numberFree_toJson (k : Kind) : Json.NumberFree k.toJson :=
  .object (Column.numberFree_members k)

end DocTables
