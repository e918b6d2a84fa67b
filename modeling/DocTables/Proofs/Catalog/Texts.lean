/-
# Columns, schemas and tables as text

The text of a column, a kind, a schema or a table is read as the same column, kind, schema or table
exactly if no more brackets are open at once in it than JSON text may open (`comesBack_written`).

Schemas and tables are records: each of their fields is read from the tree of the text in its own
way.  The metadata of a schema is left out of the text if there is none, and is otherwise inserted
key by key, which gives the same dictionary since its keys ascend (`Dictionary.ofList_entries`).  It
never opens more brackets at once than the columns do (`Schema.depth_toJson`).
-/
import DocTables.Catalog.TableInfo
import DocTables.Proofs.Column.Json

namespace DocTables

/-! ## 1. Dictionaries -/

namespace Dictionary

theorem put_of_last {key text : String} : ∀ {es : List (String × String)},
    (∀ e ∈ es, e.1 < key) → put key text es = es ++ [(key, text)]
  | [], _ => rfl
  | (k, v) :: es, h => by
    obtain ⟨hk, hes⟩ := List.forall_mem_cons.mp h
    have hne : key ≠ k := fun heq => String.lt_irrefl _ (heq ▸ hk)
    have hnlt : ¬key < k := fun hlt => String.lt_irrefl _ (String.lt_trans hlt hk)
    rw [put, if_neg hne, if_neg hnlt, put_of_last hes, List.cons_append]

theorem entries_foldl_insert : ∀ {es : List (String × String)} {d : Dictionary},
    Ascending (d.entries ++ es) →
      (es.foldl (fun d e => d.insert e.1 e.2) d).entries = d.entries ++ es
  | [], _, _ => by simp
  | (key, text) :: es, d, h => by
    have hlast : ∀ e ∈ d.entries, e.1 < key := by
      intro e he
      rw [Ascending, List.map_append] at h
      exact (List.pairwise_append.mp h).2.2 e.1 (List.mem_map_of_mem he) key (by simp)
    have hinsert : (d.insert key text).entries = d.entries ++ [(key, text)] := put_of_last hlast
    have hrest : Ascending ((d.insert key text).entries ++ es) := by
      rw [hinsert]
      simpa using h
    rw [List.foldl_cons, entries_foldl_insert hrest, hinsert]
    simp

/-- Entries whose keys ascend are collected as they are. -/
theorem ofList_entries (d : Dictionary) : ofList d.entries = d := by
  have h : (ofList d.entries).entries = d.entries :=
    entries_foldl_insert (d := empty) d.ascending
  cases d
  cases hd : ofList _
  simp_all

end Dictionary

/-! ## 2. Schemas -/

namespace Json

theorem draftsOfMembers_eq_map : ∀ members : List (String × Json),
    draftsOfMembers members = members.map fun e => (some e.1, e.2.toDraft)
  | [] => rfl
  | (key, j) :: members => congrArg ((some key, j.toDraft) :: ·) (draftsOfMembers_eq_map members)

theorem depthOfMembers_string : ∀ es : List (String × String),
    depthOfMembers (es.map fun e => (e.1, .string e.2)) = 0
  | [] => rfl
  | (key, text) :: es => by
    rw [List.map_cons, depthOfMembers, depthOfMembers_string es]
    rfl

theorem numberFree_ofDictionary (d : Dictionary) : NumberFree (ofDictionary d) := by
  refine .object fun e he => ?_
  obtain ⟨e, -, rfl⟩ := List.mem_map.mp he
  exact .string e.2

/-- The tree of a dictionary is read as the dictionary. -/
theorem dictionary?_ofDictionary (d : Dictionary) :
    (ofDictionary d).toDraft.dictionary? = some d := by
  have hentries : d.entries.mapM (fun e => (pure e : Option (String × String))) = some d.entries := by
    simpa using List.mapM_pure (m := Option) (l := d.entries) (f := id)
  rw [ofDictionary, toDraft, Draft.dictionary?, draftsOfMembers_eq_map, List.map_map,
    List.mapM_map]
  exact (congrArg (·.bind fun es => some (Dictionary.ofList es)) hentries).trans
    (congrArg some d.ofList_entries)

end Json

namespace Schema

open Json (NumberFree)

/-- The columns of a schema as JSON. -/
def columnsToJson (s : Schema) : Json := .array (s.columns.map Column.toJson)

/-- Metadata is written if there is any. -/
theorem toJson_cases (s : Schema) :
    (s.metadata = .empty ∧ s.toJson = .object [("columns", s.columnsToJson)]) ∨
      s.toJson =
        .object [("columns", s.columnsToJson), ("metadata", Json.ofDictionary s.metadata)] := by
  obtain ⟨columns, entries, ascending⟩ := s
  cases entries with
  | nil => exact .inl ⟨rfl, rfl⟩
  | cons e es => exact .inr rfl

theorem numberFree_columnsToJson (s : Schema) : NumberFree s.columnsToJson := by
  refine .array fun j hj => ?_
  obtain ⟨c, -, rfl⟩ := List.mem_map.mp hj
  exact c.numberFree_toJson

theorem numberFree_toJson (s : Schema) : NumberFree s.toJson := by
  have hcolumns := s.numberFree_columnsToJson
  rcases s.toJson_cases with ⟨-, h⟩ | h
  · rw [h]
    exact .object (by simpa using hcolumns)
  · rw [h]
    exact .object (by simpa using ⟨hcolumns, Json.numberFree_ofDictionary s.metadata⟩)

/-- Only the columns matter, since they open as many brackets as the metadata at least. -/
theorem depth_toJson (s : Schema) : s.toJson.depth = s.columnsToJson.depth + 1 := by
  rcases s.toJson_cases with ⟨-, h⟩ | h
  · simp [h, Json.depth, Json.depthOfMembers]
  · simp [h, Json.depth, Json.depthOfMembers, columnsToJson, Json.ofDictionary,
      Json.depthOfMembers_string]

/-- **The tree of a schema is read as the schema** as far as brackets may be opened. -/
theorem ofDraft?_toDraft (s : Schema) : ∀ most : Nat,
    ofDraft? most s.toJson.toDraft = if s.toJson.depth ≤ most then some s else none
  | 0 => by
    rw [depth_toJson]
    rcases s.toJson_cases with ⟨-, h⟩ | h <;> rw [h] <;> rfl
  | most + 1 => by
    have hcolumns := Json.value?_toDraft s.columnsToJson most
    have hlist : Column.listOfJson? s.columnsToJson = some s.columns :=
      Column.listOfJson?_toJson s.columns
    rw [depth_toJson]
    simp only [Nat.add_le_add_iff_right]
    rcases s.toJson_cases with ⟨hempty, h⟩ | h
    · have hfields : (Json.object [("columns", s.columnsToJson)]).toDraft.fields?
          ["columns", "metadata"] = some [some s.columnsToJson.toDraft, none] := rfl
      rw [h, ofDraft?, hfields]
      by_cases hdepth : s.columnsToJson.depth ≤ most
      · simp [hcolumns, hdepth, hlist, Json.orDefault, ← hempty]
      · simp [hcolumns, hdepth]
    · have hfields : (Json.object [("columns", s.columnsToJson),
            ("metadata", Json.ofDictionary s.metadata)]).toDraft.fields? ["columns", "metadata"] =
          some [some s.columnsToJson.toDraft, some (Json.ofDictionary s.metadata).toDraft] := rfl
      rw [h, ofDraft?, hfields]
      by_cases hdepth : s.columnsToJson.depth ≤ most
      · simp [hcolumns, hdepth, hlist, Json.orDefault, Json.dictionary?_ofDictionary]
      · simp [hcolumns, hdepth]

theorem parse?_toJson (s : Schema) : parse? s.toJson.compact =
    if s.toJson.depth ≤ Json.maxDepth then some s else none := by
  rw [parse?, Json.parse?_compact s.numberFree_toJson]
  exact s.ofDraft?_toDraft Json.maxDepth

end Schema

/-! ## 3. Tables -/

theorem SchemaSource.ofDraft?_name (source : SchemaSource) :
    ofDraft? (.string (some source.name)) = some source := by
  cases source <;> rfl

namespace TableInfo

theorem numberFree_toJson (t : TableInfo) : Json.NumberFree t.toJson :=
  .object (by simp [Json.NumberFree.string, t.schema.numberFree_toJson])

theorem depth_toJson (t : TableInfo) : t.toJson.depth = t.schema.toJson.depth + 1 := by
  simp [toJson, Json.depth, Json.depthOfMembers]

theorem parse?_toJson (t : TableInfo) : parse? t.toJson.compact =
    if t.toJson.depth ≤ Json.maxDepth then some t else none := by
  have hfields : t.toJson.toDraft.fields? ["schema_name", "table_name", "schema", "source"] =
      some [some (Json.string t.database).toDraft, some (Json.string t.table).toDraft,
        some t.schema.toJson.toDraft, some (Json.string t.source.name).toDraft] := rfl
  have hlimit : t.toJson.depth ≤ Json.maxDepth ↔ t.schema.toJson.depth ≤ Json.maxDepth - 1 := by
    rw [depth_toJson, Json.maxDepth]
    omega
  have hschema := t.schema.ofDraft?_toDraft (Json.maxDepth - 1)
  simp only [← hlimit] at hschema
  rw [parse?, Json.parse?_compact t.numberFree_toJson]
  simp only [Option.bind_eq_bind, Option.bind_some, hfields, hschema]
  by_cases hdepth : t.toJson.depth ≤ Json.maxDepth
  · simp [hdepth, Json.toDraft, Json.Draft.text?, SchemaSource.ofDraft?_name]
  · simp [hdepth, Json.toDraft, Json.Draft.text?]

end TableInfo

/-! ## 4. What comes back from its text -/

/-- A value comes back from its text: what is read is the value again, and has the same text. -/
def ComesBack {α : Type} (read? : String → Option α) (write : α → Json) (a : α) : Prop :=
  ∃ b, read? (write a).compact = some b ∧ b = a ∧ (write b).compact = (write a).compact

theorem comesBack_iff {α : Type} {read? : String → Option α} {write : α → Json} {a : α}
    (h : read? (write a).compact = if (write a).depth ≤ Json.maxDepth then some a else none) :
    ComesBack read? write a ↔ (write a).depth ≤ Json.maxDepth := by
  unfold ComesBack
  rw [h]
  constructor
  · rintro ⟨b, hread, -⟩
    by_contra hdepth
    simp [hdepth] at hread
  · intro hdepth
    exact ⟨a, by simp [hdepth], rfl, rfl⟩

/-- **Columns, kinds, schemas and tables come back from their texts**, however they are nested and
whatever names, marks of nulls and metadata they have, exactly if no more than `Json.maxDepth`
brackets are open at once in the text. -/
theorem comesBack_written :
    (∀ c : Column, ComesBack (fun text => (Json.parse? text).bind Column.ofJson?) Column.toJson c ↔
      c.toJson.depth ≤ Json.maxDepth) ∧
    (∀ k : Kind, ComesBack (fun text => (Json.parse? text).bind Kind.ofJson?) Kind.toJson k ↔
      k.toJson.depth ≤ Json.maxDepth) ∧
    (∀ s : Schema, ComesBack Schema.parse? Schema.toJson s ↔ s.toJson.depth ≤ Json.maxDepth) ∧
    (∀ t : TableInfo, ComesBack TableInfo.parse? TableInfo.toJson t ↔
      t.toJson.depth ≤ Json.maxDepth) := by
  refine ⟨fun c => comesBack_iff ?_, fun k => comesBack_iff ?_,
    fun s => comesBack_iff s.parse?_toJson, fun t => comesBack_iff t.parse?_toJson⟩
  · rw [Json.parse?_compact_eq c.numberFree_toJson]
    by_cases hdepth : c.toJson.depth ≤ Json.maxDepth <;> simp [hdepth, c.ofJson?_toJson]
  · rw [Json.parse?_compact_eq k.numberFree_toJson]
    by_cases hdepth : k.toJson.depth ≤ Json.maxDepth <;> simp [hdepth, k.ofJson?_toJson]

/-- A list of structs opens a bracket for each of its columns, and one for those of the struct. -/
example : (Column.ofKind "tags" (.listOf (.struct [⟨"a", .int32, false⟩]))).toJson.depth = 4 := rfl

end DocTables
