/-
# Which values survive JSON

A value that is written as JSON and read again is the same if and only if none of its parts is lost
on the way (`Value.ofJson_toJson_iff`).  `Lossy` lists what is lost: numbers of a type that JSON
does not tell from another, numbers that JSON cannot hold, bytes, instants whose text does not read
back, and documents that look like one of the objects that stand for other values.

Both directions go by one equation for each type of value: a value without parts survives if it is
not lossy (`survives_iff_of_plain`), an array if its items do (`survives_array_iff`), a document if
it is not lossy and the values of its fields survive (`survives_document_iff`).
-/
import DocTables.Proofs.Fields
import DocTables.Proofs.ObjectId
import DocTables.Value.Json

namespace DocTables.Value

/-! ## 1. Parts -/

/-- A value is part of itself, and the parts of items and fields are parts of what holds them. -/
inductive PartOf (p : Value) : Value → Prop
  | whole : PartOf p p
  | item {items : List Value} {v : Value} (mem : v ∈ items) (part : PartOf p v) :
      PartOf p (.array items)
  | field {d : Document} {e : String × Value} (mem : e ∈ d.entries) (part : PartOf p e.2) :
      PartOf p (.document d)

/-- Whether a value has no parts but itself, whatever it holds. -/
def isPlain : Value → Bool
  | .array _ => false
  | .document _ => false
  | _ => true

theorem eq_of_partOf_plain {p v : Value} (h : PartOf p v) (hv : v.isPlain = true) : p = v := by
  cases h with
  | whole => rfl
  | item mem part => simp [isPlain] at hv
  | field mem part => simp [isPlain] at hv

/-- **Induction over parts.**  What holds of an array if it holds of its items, of a document if it
holds of the values of its fields, and of all other values, holds of every value. -/
@[elab_as_elim]
theorem induct {motive : Value → Prop} (plain : ∀ v, v.isPlain = true → motive v)
    (array : ∀ items, (∀ v ∈ items, motive v) → motive (.array items))
    (document : ∀ d : Document, (∀ e ∈ d.entries, motive e.2) → motive (.document d)) (v : Value) :
    motive v :=
  @Value.rec motive (fun items => ∀ v ∈ items, motive v) (fun d => ∀ e ∈ d.entries, motive e.2)
    (fun es => ∀ e ∈ es, motive e.2) (fun e => motive e.2)
    (plain _ rfl) (fun _ => plain _ rfl) (fun _ => plain _ rfl) (fun _ => plain _ rfl)
    (fun _ => plain _ rfl) (fun _ => plain _ rfl) (fun _ => plain _ rfl) (fun _ => plain _ rfl)
    (fun _ => plain _ rfl) (fun _ => plain _ rfl) (fun _ => plain _ rfl) (fun _ => plain _ rfl)
    array document
    (by simp) (fun _ _ head tail => List.forall_mem_cons.mpr ⟨head, tail⟩)
    (fun _ parts => parts)
    (by simp) (fun _ _ head tail => List.forall_mem_cons.mpr ⟨head, tail⟩)
    (fun _ _ part => part) v

/-! ## 2. What is lost -/

/-- The names that an object of one member cannot have without being looked at closer. -/
def reservedNames : List String :=
  ["$oid", "$date", "$timestamp", "$numberDecimal", "$numberLong"]

/-- A value that is not the same after it has been written as JSON and read again, whatever its
parts. -/
inductive Lossy : Value → Prop
  /-- JSON numbers are read in double precision. -/
  | float32 (f : Float32) : Lossy (.float32 f)
  /-- JSON has no infinite numbers. -/
  | float64 {f : Float} (infinite : f.isFinite = false) : Lossy (.float64 f)
  /-- An integer is read into the smallest type that holds it. -/
  | int64 {n : Int64} (small : Text.fitsInt32 n.toInt = true) : Lossy (.int64 n)
  /-- Bytes are not read back. -/
  | binary (bytes : List UInt8) : Lossy (.binary bytes)
  /-- The text of some instants is refused or stands for another. -/
  | dateTime {i : Instant} (other : Instant.parse? i.text ≠ some i) : Lossy (.dateTime i)
  /-- A document may be written as the object that stands for another value. -/
  | document {name : String} {content v : Value} (reserved : name ∈ reservedNames)
      (accepted : unwrap? name content.toJson = some v) : Lossy (.document ⟨[(name, content)]⟩)

/-- Every document in the value has distinct names, as those do that are made by inserting. -/
def WellFormed (v : Value) : Prop := ∀ d : Document, PartOf (.document d) v → d.Distinct

/-! ## 3. Objects that stand for other values -/

theorem reserved_of_unwrap? {name : String} {content : Json} {v : Value}
    (h : unwrap? name content = some v) : name ∈ reservedNames := by
  unfold unwrap? at h
  split at h <;> simp_all [reservedNames]

/-- What an object of one member stands for is never an array or a document. -/
theorem isPlain_of_unwrap? {name : String} {content : Json} {v : Value}
    (h : unwrap? name content = some v) : v.isPlain = true := by
  unfold unwrap? at h
  simp only [Option.bind_eq_bind, Option.pure_def] at h
  split at h
  · obtain ⟨s, -, hs⟩ := Option.bind_eq_some_iff.mp h
    obtain ⟨id, -, rfl⟩ := Option.map_eq_some_iff.mp hs
    rfl
  · obtain ⟨i, -, rfl⟩ := Option.map_eq_some_iff.mp h
    rfl
  · simp only [Option.bind_eq_some_iff, Option.some.injEq] at h
    obtain ⟨_, -, _, -, _, -, _, -, rfl⟩ := h
    rfl
  · obtain ⟨s, -, rfl⟩ := Option.map_eq_some_iff.mp h
    rfl
  · simp only [Option.bind_eq_some_iff, Option.some.injEq] at h
    obtain ⟨_, -, _, -, rfl⟩ := h
    rfl
  · simp at h

theorem ofJson_wrapped (name : String) (content : Json) :
    ofJson (wrapped name content) =
      (unwrap? name content).getD (.document ⟨[(name, ofJson content)]⟩) := by
  have hspecial : special? [(name, content)] = unwrap? name content := rfl
  rw [wrapped, ofJson, hspecial]
  cases unwrap? name content <;> rfl

/-! ## 4. Values by their types -/

theorem word?_integer (i : Int) :
    word? (.number (.integer i)) =
      if 0 ≤ i ∧ i < 0x100000000 then some (UInt32.ofNat i.toNat) else none := rfl

theorem word?_toNat (n : UInt32) : word? (.number (.integer n.toNat)) = some n := by
  have hlt : n.toNat < 4294967296 := n.toNat_lt
  have hfits : 0 ≤ (n.toNat : Int) ∧ (n.toNat : Int) < 0x100000000 := by omega
  rw [word?_integer, if_pos hfits, Int.toNat_natCast, UInt32.ofNat_toNat]

theorem ofJson_timestamp (t : Timestamp) : ofJson (toJson (.timestamp t)) = .timestamp t := by
  have hunwrap (time increment : Json) :
      unwrap? "$timestamp" (.object [("t", time), ("i", increment)]) =
        (word? time).bind fun t => (word? increment).bind fun i => some (.timestamp ⟨t, i⟩) := rfl
  rw [toJson, ofJson_wrapped, hunwrap, word?_toNat, word?_toNat]
  rfl

theorem ofJson_int64 (n : Int64) :
    ofJson (toJson (.int64 n)) =
      if Text.fitsInt32 n.toInt then .int32 (Int32.ofInt n.toInt) else .int64 n := by
  have hfits : Text.fitsInt64 n.toInt = true := by
    have h1 : Text.minInt64 ≤ n.toInt := n.le_toInt
    have h2 : n.toInt ≤ Text.maxInt64 := Int.le_of_lt_add_one n.toInt_lt
    simp [Text.fitsInt64, h1, h2]
  simp [toJson, ofJson, ofNumber, hfits]

theorem fitsInt32_toInt (n : Int32) : Text.fitsInt32 n.toInt = true := by
  have h1 : -2 ^ 31 ≤ n.toInt := n.le_toInt
  have h2 : n.toInt < 2 ^ 31 := n.toInt_lt
  simp only [Text.fitsInt32, Bool.and_eq_true, decide_eq_true_eq]
  omega

/-- **A value without parts survives if it is not lossy.** -/
theorem survives_iff_of_plain {v : Value} (h : v.isPlain = true) :
    ofJson v.toJson = v ↔ ¬ v.Lossy := by
  cases v with
  | null | bool | string => exact iff_of_true rfl (by rintro ⟨⟩)
  | int32 n =>
    refine iff_of_true ?_ (by rintro ⟨⟩)
    simp [toJson, ofJson, ofNumber, fitsInt32_toInt]
  | int64 n =>
    rw [ofJson_int64]
    cases hn : Text.fitsInt32 n.toInt with
    | true => exact iff_of_false (by simp) (not_not_intro (.int64 hn))
    | false => exact iff_of_true (by simp) (by rintro ⟨⟩; simp_all)
  | float32 f =>
    refine iff_of_false ?_ (not_not_intro (.float32 f))
    rw [toJson, jsonOfFloat]
    split <;> simp [ofJson, ofNumber]
  | float64 f =>
    rw [toJson, jsonOfFloat]
    cases hf : f.isFinite with
    | true => exact iff_of_true (by simp [ofJson, ofNumber]) (by rintro ⟨⟩; simp_all)
    | false => exact iff_of_false (by simp [ofJson]) (not_not_intro (.float64 hf))
  | decimal s =>
    rw [toJson, ofJson_wrapped]
    exact iff_of_true rfl (by rintro ⟨⟩)
  | objectId id =>
    rw [toJson, ofJson_wrapped]
    refine iff_of_true ?_ (by rintro ⟨⟩)
    simp [unwrap?, Json.text?, ObjectId.parse_text, Except.toOption]
  | timestamp t => exact iff_of_true (ofJson_timestamp t) (by rintro ⟨⟩)
  | dateTime i =>
    rw [toJson, ofJson_wrapped]
    have hunwrap : unwrap? "$date" (.string i.text) = (Instant.parse? i.text).map .dateTime := rfl
    rw [hunwrap]
    by_cases hi : Instant.parse? i.text = some i
    · rw [hi]
      exact iff_of_true rfl (by rintro ⟨⟩; simp_all)
    · refine iff_of_false ?_ (not_not_intro (.dateTime hi))
      cases hparse : Instant.parse? i.text with
      | none => simp
      | some j =>
        rintro hj
        obtain rfl : j = i := by simpa using hj
        exact hi hparse
  | binary bytes =>
    rw [toJson, ofJson_wrapped]
    exact iff_of_false (by simp [unwrap?]) (not_not_intro (.binary bytes))
  | array items => simp [isPlain] at h
  | document d => simp [isPlain] at h

theorem itemsOfJson_itemsToJson : ∀ items : List Value,
    itemsOfJson (itemsToJson items) = items.map fun v => ofJson v.toJson
  | [] => rfl
  | v :: items => by
    rw [itemsToJson, itemsOfJson, itemsOfJson_itemsToJson items, List.map_cons]

/-- **An array survives if its items do.** -/
theorem survives_array_iff (items : List Value) :
    ofJson (toJson (.array items)) = .array items ↔ ∀ v ∈ items, ofJson v.toJson = v := by
  rw [toJson, ofJson, itemsOfJson_itemsToJson, Value.array.injEq]
  have hid : items.map id = items := List.map_id items
  constructor
  · intro h
    exact List.map_inj_left.mp (h.trans hid.symm)
  · intro h
    exact (List.map_congr_left h).trans hid

/-! ## 5. Documents -/

theorem entriesToJson_eq_map : ∀ es : List (String × Value),
    entriesToJson es = es.map fun e => (e.1, e.2.toJson)
  | [] => rfl
  | (name, v) :: es => by rw [entriesToJson, entriesToJson_eq_map es, List.map_cons]

theorem entriesOfJson_eq_map : ∀ members : List (String × Json),
    entriesOfJson members = members.map fun m => (m.1, ofJson m.2)
  | [] => rfl
  | (name, j) :: members => by rw [entriesOfJson, entriesOfJson_eq_map members, List.map_cons]

/-- Values under distinct names are collected as they are, also after they have been changed. -/
theorem ofList_map {α : Type} {d : Document} (h : d.Distinct) (f : Value → α) :
    Fields.ofList (d.entries.map fun e => (e.1, f e.2)) =
      ⟨d.entries.map fun e => (e.1, f e.2)⟩ := by
  have hdistinct : (⟨d.entries.map fun e => (e.1, f e.2)⟩ : Fields α).Distinct := by
    simpa [Fields.Distinct, Fields.keys, Function.comp_def] using h
  exact hdistinct.ofList_entries

/-- A document is taken for another value if and only if it is lossy. -/
theorem special?_isSome_iff {d : Document} (h : d.Distinct) :
    (special? (entriesToJson d.entries)).isSome ↔ Lossy (.document d) := by
  rw [special?, entriesToJson_eq_map, ofList_map h]
  obtain ⟨es⟩ := d
  match es with
  | [] => exact iff_of_false (by simp) (by rintro ⟨⟩)
  | [(name, content)] =>
    constructor
    · intro hsome
      obtain ⟨v, hv⟩ := Option.isSome_iff_exists.mp hsome
      exact .document (reserved_of_unwrap? hv) hv
    · rintro ⟨⟩
      rename_i v hreserved haccepted
      exact Option.isSome_iff_exists.mpr ⟨v, haccepted⟩
  | e :: e' :: es => exact iff_of_false (by simp) (by rintro ⟨⟩)

/-- **A document survives if it is not taken for another value and the values of its fields
survive.** -/
theorem survives_document_iff {d : Document} (h : d.Distinct) :
    ofJson (toJson (.document d)) = .document d ↔
      ¬ Lossy (.document d) ∧ ∀ e ∈ d.entries, ofJson e.2.toJson = e.2 := by
  have hvalues : Fields.ofList (entriesOfJson (entriesToJson d.entries)) =
      ⟨d.entries.map fun e => (e.1, ofJson e.2.toJson)⟩ := by
    rw [entriesToJson_eq_map, entriesOfJson_eq_map, List.map_map]
    exact ofList_map h fun v => ofJson v.toJson
  rw [← special?_isSome_iff h, toJson, ofJson]
  cases hspecial : special? (entriesToJson d.entries) with
  | some v =>
    obtain ⟨name, content, hunwrap⟩ : ∃ name content, unwrap? name content = some v := by
      unfold special? at hspecial
      split at hspecial
      · exact ⟨_, _, hspecial⟩
      · simp at hspecial
    have hplain := isPlain_of_unwrap? hunwrap
    refine iff_of_false ?_ (by simp)
    rintro rfl
    simp [isPlain] at hplain
  | none =>
    have hid : d.entries.map id = d.entries := List.map_id d.entries
    simp only [hvalues, Value.document.injEq, Option.isSome_none, Bool.false_eq_true,
      not_false_eq_true, true_and]
    constructor
    · intro heq e he
      have hentries := congrArg Fields.entries heq
      exact congrArg Prod.snd (List.map_inj_left.mp (hentries.trans hid.symm) e he)
    · intro hall
      refine congrArg Fields.mk ((List.map_congr_left fun e he => ?_).trans hid)
      rw [hall e he]
      rfl

/-! ## 6. All values -/

/-- **What survives JSON.**  A value that is written as JSON and read again is the same if and only
if none of its parts is lossy.  Whatever else it is made of, decimals, identifiers, timestamps and
the order of fields among it, comes back. -/
theorem ofJson_toJson_iff {v : Value} (h : v.WellFormed) :
    ofJson v.toJson = v ↔ ∀ p, PartOf p v → ¬ p.Lossy := by
  induction v using induct with
  | plain v hv =>
    rw [survives_iff_of_plain hv]
    constructor
    · intro hkept p hp
      rwa [eq_of_partOf_plain hp hv]
    · exact fun hall => hall v .whole
  | array items ih =>
    have hitem {v : Value} (hv : v ∈ items) : v.WellFormed := fun d hd => h d (.item hv hd)
    rw [survives_array_iff]
    constructor
    · intro hall p hp
      cases hp with
      | whole => rintro ⟨⟩
      | item mem part => exact (ih _ mem (hitem mem)).mp (hall _ mem) p part
    · intro hall v hv
      exact (ih v hv (hitem hv)).mpr fun p hp => hall p (.item hv hp)
  | document d ih =>
    have hfield {e : String × Value} (he : e ∈ d.entries) : e.2.WellFormed :=
      fun d' hd' => h d' (.field he hd')
    rw [survives_document_iff (h d .whole)]
    constructor
    · rintro ⟨hkept, hall⟩ p hp
      cases hp with
      | whole => exact hkept
      | field mem part => exact (ih _ mem (hfield mem)).mp (hall _ mem) p part
    · intro hall
      refine ⟨hall _ .whole, fun e he => ?_⟩
      exact (ih e he (hfield he)).mpr fun p hp => hall p (.field he hp)

/-- A document that has the reserved name of 64-bit integers, among other values. -/
def likeInt64 (text : String) : Value :=
  .array [.decimal "1.50", .document ⟨[("$numberLong", .string text)]⟩]

theorem partOf_likeInt64 {p : Value} {text : String} (h : PartOf p (likeInt64 text)) :
    p = likeInt64 text ∨ p = .decimal "1.50" ∨ p = .document ⟨[("$numberLong", .string text)]⟩ ∨
      p = .string text := by
  rcases h with _ | ⟨mem, part⟩
  · exact .inl rfl
  · rcases List.mem_cons.mp mem with rfl | mem
    · exact .inr (.inl (eq_of_partOf_plain part rfl))
    · obtain rfl := List.mem_singleton.mp mem
      rcases part with _ | _ | ⟨mem, part⟩
      · exact .inr (.inr (.inl rfl))
      · obtain rfl := List.mem_singleton.mp mem
        exact .inr (.inr (.inr (eq_of_partOf_plain part rfl)))

theorem wellFormed_likeInt64 (text : String) : (likeInt64 text).WellFormed := by
  intro d hd
  obtain h | h | h | h := partOf_likeInt64 hd
  · cases h
  · cases h
  · obtain rfl := Value.document.inj h
    exact List.nodup_cons.mpr ⟨List.not_mem_nil, List.nodup_nil⟩
  · cases h

/-- Under the reserved name a word survives; digits are taken for an integer. -/
theorem ofJson_toJson_likeInt64 :
    (likeInt64 "five").WellFormed ∧ ofJson (likeInt64 "five").toJson = likeInt64 "five" ∧
      (likeInt64 "5").WellFormed ∧ ofJson (likeInt64 "5").toJson ≠ likeInt64 "5" := by
  have hfive := wellFormed_likeInt64 "five"
  have h5 := wellFormed_likeInt64 "5"
  refine ⟨hfive, (ofJson_toJson_iff hfive).mpr fun p hp => ?_, h5, fun h => ?_⟩
  · have hrefused : unwrap? "$numberLong" (.string "five") = none := by rfl
    obtain rfl | rfl | rfl | rfl := partOf_likeInt64 hp
    · rintro ⟨⟩
    · rintro ⟨⟩
    · rintro ⟨⟩
      rename_i haccepted
      exact absurd (hrefused.symm.trans haccepted) (by simp)
    · rintro ⟨⟩
  · have haccepted : unwrap? "$numberLong" (.string "5") = some (.int64 5) := by rfl
    have hpart : PartOf (.document ⟨[("$numberLong", .string "5")]⟩) (likeInt64 "5") :=
      .item (List.mem_cons_of_mem _ List.mem_cons_self) .whole
    exact (ofJson_toJson_iff h5).mp h _ hpart (.document (by simp [reservedNames]) haccepted)

end DocTables.Value
