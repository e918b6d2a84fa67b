/-
# What a projection keeps

A projection lists names with marks.  A mark declines if it is false or a zero that is an integer or
a number of double precision (`isMarked_iff`); every other value asks for the field of the name.
Which fields stay is a matter of their names alone, so a projection keeps a part of the fields in
their order (`project_fields`).

The rule for `_id` gives way to the other two: a projection that asks for nothing keeps everything,
so `_id: 0` on its own keeps `_id`, and one that excludes `_id` and asks for `_ID` asks for `_id` too
(`excluded_kept`).
-/
import DocTables.Store.Query

namespace DocTables.Query

/-- Marks that do not ask for a field. -/
inductive Declines : Value → Prop where
  | bool : Declines (.bool false)
  | int32 : Declines (.int32 0)
  | int64 : Declines (.int64 0)
  /-- Both zeros, and no other number. -/
  | float64 {f : Float} (zero : (f == 0.0) = true) : Declines (.float64 f)

/-- The projection asks for the fields of a name, in any case. -/
def Asks (projection : Document) (name : String) : Prop :=
  ∃ e ∈ projection.entries, ¬Declines e.2 ∧ Text.eqIgnoreCase e.1 name = true

/-- The projection asks for some field. -/
def AsksSome (projection : Document) : Prop := ∃ e ∈ projection.entries, ¬Declines e.2

/-- The projection lists `_id`, spelled so, with a mark that declines. -/
def Excludes (projection : Document) : Prop :=
  ∃ mark, projection.get? idField = some mark ∧ Declines mark

section Marks

variable {projection d : Document} {name : String} {mark : Value}

theorem isMarked_iff : isMarked mark = true ↔ ¬Declines mark := by
  constructor
  · rintro h (_ | _ | _ | zero)
    · exact Bool.false_ne_true h
    · simp [isMarked] at h
    · simp [isMarked] at h
    · simp [isMarked, bne, zero] at h
  · intro h
    cases mark with
    | bool b =>
      cases b
      · exact absurd .bool h
      · rfl
    | int32 n => exact bne_iff_ne.mpr fun zero => h (zero ▸ .int32)
    | int64 n => exact bne_iff_ne.mpr fun zero => h (zero ▸ .int64)
    | float64 f =>
      have hzero : (f == 0.0) = false := by simpa using fun zero => h (.float64 zero)
      simp [isMarked, bne, hzero]
    | _ => rfl

theorem asksSome_iff :
    (projection.entries.any fun e => isMarked e.2) = true ↔ AsksSome projection := by
  simp only [List.any_eq_true, isMarked_iff, AsksSome]

theorem not_excludes_iff :
    (projection.get? idField).all isMarked = true ↔ ¬Excludes projection := by
  cases h : projection.get? idField with
  | none => simp [Excludes, h]
  | some mark => simp [Excludes, h, isMarked_iff]

/-- A field is kept for its name: because it is asked for, or because it is `_id`. -/
theorem keeps_iff :
    keeps projection name = true ↔
      Asks projection name ∨ name = idField ∧ ¬Excludes projection := by
  rw [keeps, Bool.or_eq_true, Bool.and_eq_true, beq_iff_eq, not_excludes_iff]
  simp only [List.any_eq_true, Bool.and_eq_true, isMarked_iff, Asks]

theorem project_of_asksSome (h : AsksSome projection) :
    project projection d = ⟨d.entries.filter fun e => keeps projection e.1⟩ :=
  if_pos (asksSome_iff.mpr h)

theorem project_of_not_asksSome (h : ¬AsksSome projection) : project projection d = d :=
  if_neg fun any => h (asksSome_iff.mp any)

theorem mem_project_iff {e : String × Value} (he : e ∈ d.entries) :
    e ∈ (project projection d).entries ↔
      (Asks projection e.1 ∨ e.1 = idField ∧ ¬Excludes projection) ∨ ¬AsksSome projection := by
  by_cases h : AsksSome projection
  · simp [project_of_asksSome h, he, h, keeps_iff]
  · simp [project_of_not_asksSome h, he, h]

theorem project_sublist (projection d : Document) :
    (project projection d).entries.Sublist d.entries := by
  by_cases h : AsksSome projection
  · rw [project_of_asksSome h]
    exact List.filter_sublist
  · simp only [project_of_not_asksSome h, List.Sublist.refl]

end Marks

/-- **What a projection keeps.**  It keeps a part of the fields in their order, with their values.  A
field is kept if it is asked for, or if nothing is asked for.  Apart from `_id`, it is kept only
then; `_id` is also kept if it is not excluded. -/
theorem project_fields (projection d : Document) :
    (project projection d).entries.Sublist d.entries ∧
      ∀ e ∈ d.entries,
        (e.1 ≠ idField → (e ∈ (project projection d).entries ↔
          Asks projection e.1 ∨ ¬AsksSome projection)) ∧
        (e.1 = idField → (e ∈ (project projection d).entries ↔
          ¬Excludes projection ∨ Asks projection e.1 ∨ ¬AsksSome projection)) := by
  refine ⟨project_sublist projection d, fun e he => ⟨fun other => ?_, fun own => ?_⟩⟩
  · rw [mem_project_iff he]
    simp only [other, false_and, or_false]
  · rw [mem_project_iff he, or_comm (a := Asks projection e.1), or_assoc]
    simp only [own, true_and]

/-- A document of three fields. -/
def numbered : Document := ⟨[("_id", .int32 7), ("a", .int32 1), ("b", .int32 2)]⟩

/-- A projection that asks for `a` in another spelling and excludes `_id`. -/
def onlyA : Document := ⟨[("A", .int32 1), ("_id", .int32 0)]⟩

/-- The field that is asked for stays; `_id` and the one that is not listed go. -/
theorem project_fields_onlyA :
    ("a", .int32 1) ∈ (project onlyA numbered).entries ∧
      ("_id", .int32 7) ∉ (project onlyA numbered).entries ∧
      ("b", .int32 2) ∉ (project onlyA numbered).entries := by
  have hfields := (project_fields onlyA numbered).2
  have hexcludes : Excludes onlyA := ⟨.int32 0, rfl, .int32⟩
  have hsome : AsksSome onlyA := ⟨("A", .int32 1), .head _, isMarked_iff.mp rfl⟩
  have hasks : Asks onlyA "a" := ⟨("A", .int32 1), .head _, isMarked_iff.mp rfl, by decide⟩
  have hnot (name : String) (h : Text.eqIgnoreCase "A" name = false) : ¬Asks onlyA name := by
    rintro ⟨e, he, hmark, hname⟩
    rcases List.mem_cons.mp he with rfl | he
    · exact Bool.false_ne_true (h.symm.trans hname)
    · exact hmark (List.mem_singleton.mp he ▸ .int32)
  refine ⟨((hfields _ (by simp [numbered])).1 (by decide)).mpr (.inl hasks), fun kept => ?_,
    fun kept => ?_⟩
  · rcases ((hfields _ (by simp [numbered])).2 rfl).mp kept with hkept | hkept | hkept
    · exact hkept hexcludes
    · exact hnot "_id" (by decide) hkept
    · exact hkept hsome
  · rcases ((hfields _ (by simp [numbered])).1 (by decide)).mp kept with hkept | hkept
    · exact hnot "b" (by decide) hkept
    · exact hkept hsome

/-- A projection that does nothing but exclude `_id` keeps it, and so does one that excludes `_id` and
asks for another spelling of it; a zero of single precision does not exclude it at all. -/
theorem excluded_kept :
    (Excludes ⟨[("_id", .int32 0)]⟩ ∧
      ("_id", .int32 7) ∈ (project ⟨[("_id", .int32 0)]⟩ numbered).entries) ∧
    (Excludes ⟨[("_id", .int32 0), ("_ID", .int32 1)]⟩ ∧
      ("_id", .int32 7) ∈ (project ⟨[("_id", .int32 0), ("_ID", .int32 1)]⟩ numbered).entries) ∧
    ("_id", .int32 7) ∈ (project ⟨[("_id", .float32 0), ("a", .int32 1)]⟩ numbered).entries :=
  ⟨⟨⟨.int32 0, rfl, .int32⟩, .head _⟩, ⟨⟨.int32 0, rfl, .int32⟩, .head _⟩, .head _⟩

end DocTables.Query
