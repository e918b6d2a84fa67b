/-
# A configuration is read back from its file

What is written for a configuration is a document of values and one section, the catalogs, and reads
as what has been written, whatever texts and names the configuration holds.  Only sizes have a limit:
TOML has numbers of 64 bits with a sign, so a size beyond them is not written at all.
-/
import Mathlib
import DocTables.Config.Toml
import DocTables.Proofs.Catalog.Texts
import DocTables.Proofs.Toml.Reading

namespace DocTables

namespace Config

open Toml (lines?)

/-- The entries of the section of catalogs. -/
def catalogScalars (c : Config) : List (String × Toml.Scalar) :=
  c.catalogs.entries.map fun e => (e.1, .string e.2)

theorem toToml_eq (c : Config) : c.toToml =
    match lines? c.scalars, lines? c.catalogScalars with
    | some scalars, some catalogs =>
      .ok (String.ofList (scalars ++ ['\n'] ++ Toml.header "catalogs" ++ catalogs))
    | _, _ => .error .unwritable := rfl

/-- Both sizes fit in 64 bits with a sign. -/
def SizesFit (c : Config) : Prop := c.sampleSize ≤ Toml.maxInteger ∧ c.batchSize ≤ Toml.maxInteger

/-- Only the sizes can be too large to be written. -/
theorem exists_scalars_iff (c : Config) : (∃ text, lines? c.scalars = some text) ↔ c.SizesFit := by
  rw [Toml.exists_lines?_iff, scalars]
  cases c.defaultConnection <;> simp [SizesFit, Toml.Scalar.text?]

theorem exists_catalogs (c : Config) : ∃ text, lines? c.catalogScalars = some text := by
  rw [Toml.exists_lines?_iff]
  intro e he
  obtain ⟨entry, -, rfl⟩ := List.mem_map.mp he
  exact ⟨_, rfl⟩

theorem dictionaryOf?_written (c : Config) :
    dictionaryOf? (.table (c.catalogScalars.map fun e => (e.1, e.2.toml))) = some c.catalogs := by
  have htexts : ∀ es : List (String × String),
      ((es.map fun e => (e.1, Toml.Scalar.string e.2)).map fun e => (e.1, e.2.toml)).mapM
        (fun entry => entry.2.text?.map (entry.1, ·)) = some es := by
    intro es
    induction es with
    | nil => rfl
    | cons e es ih =>
      rw [List.map_cons, List.map_cons, List.mapM_cons, ih]
      rfl
  have hcatalogs := congrArg (Option.bind · fun es => some (Dictionary.ofList es))
    (htexts c.catalogs.entries)
  exact hcatalogs.trans (congrArg some c.catalogs.ofList_entries)

theorem ofEntries?_written (c : Config) : ofEntries? ((c.scalars.map fun e => (e.1, e.2.toml)) ++
    [("catalogs", .table (c.catalogScalars.map fun e => (e.1, e.2.toml)))]) = some c := by
  have hcatalogs := c.dictionaryOf?_written
  generalize c.catalogScalars.map (fun e => (e.1, e.2.toml)) = catalogs at hcatalogs ⊢
  obtain ⟨pattern, sample, batch, casing, connection, dictionary⟩ := c
  cases connection <;>
    simp [ofEntries?, setting?, scalars, List.lookup, Toml.Scalar.toml, Toml.text?, Toml.size?,
      Toml.bool?, hcatalogs, default]

theorem parse_toToml {c : Config} (h : c.SizesFit) : ∃ text, c.toToml = .ok text ∧ parse text = .ok c := by
  obtain ⟨first, hfirst⟩ := c.exists_scalars_iff.mpr h
  obtain ⟨second, hsecond⟩ := c.exists_catalogs
  refine ⟨_, by rw [toToml_eq, hfirst, hsecond], ?_⟩
  have hdistinct : (c.scalars.map Prod.fst).Nodup := by
    unfold scalars
    cases c.defaultConnection <;> simp
  have hname : "catalogs" ∉ c.scalars.map Prod.fst := by
    unfold scalars
    cases c.defaultConnection <;> simp
  have hcatalogs : (c.catalogScalars.map Prod.fst).Nodup := by
    have hascending : (c.catalogs.entries.map Prod.fst).Pairwise (· < ·) := c.catalogs.ascending
    rw [catalogScalars, List.map_map]
    exact hascending.imp fun h => (String.ne_of_lt h)
  rw [parse, Toml.parse?_document hfirst hsecond hdistinct hname hcatalogs, Option.bind_some,
    ofEntries?_written]

theorem toToml_of_not_fit {c : Config} (h : ¬c.SizesFit) : c.toToml = .error .unwritable := by
  have hnone : lines? c.scalars = none := by
    rw [← Option.not_isSome_iff_eq_none, Option.isSome_iff_exists]
    exact mt c.exists_scalars_iff.mp h
  rw [toToml_eq, hnone]

/-- **What is written for a configuration is read back** as that configuration, if both sizes are at
most the greatest 64-bit number with a sign: the patterns, the connections and the names of catalogs
may be any texts.  If a size is greater, neither a text nor a file is written. -/
theorem toml_round_trip (c : Config) :
    (c.sampleSize ≤ 2 ^ 63 - 1 ∧ c.batchSize ≤ 2 ^ 63 - 1 →
      ∃ text, c.toToml = .ok text ∧ parse text = .ok c) ∧
    (2 ^ 63 - 1 < c.sampleSize ∨ 2 ^ 63 - 1 < c.batchSize →
      c.toToml = .error .unwritable ∧
        ∀ (files : Files) (folder : String), c.save files folder = .error .unwritable) := by
  refine ⟨fun h => parse_toToml h, fun h => ?_⟩
  have hnot : ¬c.SizesFit := by
    rintro ⟨hsample, hbatch⟩
    simp only [Toml.maxInteger] at hsample hbatch
    omega
  have herror := toToml_of_not_fit hnot
  refine ⟨herror, fun files folder => ?_⟩
  rw [save, herror]
  rfl

/-- Texts with quotes of both sorts, backslashes, line ends and control characters, and catalogs with
no name, with a name that needs escapes, and with the name under which a date is kept. -/
def strange : Config where
  globPattern := "\"\"\"'''\n\\\r\u0000"
  sampleSize := 2 ^ 63 - 1
  batchSize := 0
  disableProjectionAndCasing := true
  defaultConnection := some "'\"\""
  catalogs := .ofList [("", "\n\n"), (momentKey, "\u007f"), ("a.b \"\t'", "c:\\d")]

theorem toml_round_trip_strange :
    (strange.sampleSize ≤ 2 ^ 63 - 1 ∧ strange.batchSize ≤ 2 ^ 63 - 1) ∧
      (∃ text, strange.toToml = .ok text ∧ parse text = .ok strange) ∧
      2 ^ 63 - 1 < { strange with sampleSize := 2 ^ 63 }.sampleSize ∧
      { strange with sampleSize := 2 ^ 63 }.toToml = .error .unwritable := by
  have fits : strange.sampleSize ≤ 2 ^ 63 - 1 ∧ strange.batchSize ≤ 2 ^ 63 - 1 := by decide
  have large : 2 ^ 63 - 1 < { strange with sampleSize := 2 ^ 63 }.sampleSize := by decide
  exact ⟨fits, (toml_round_trip strange).1 fits, large, ((toml_round_trip _).2 (.inl large)).1⟩

end Config

end DocTables
