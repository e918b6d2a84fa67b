/-
# Schemas from samples

A sample takes in documents one after another and keeps the shape of every field seen so far, in the
order in which the fields first came up.  Its schema has one nullable column for each.
-/
import DocTables.Inference.Shape
import DocTables.Schema

namespace DocTables

/-- What a number of documents show. -/
structure Sample where
  fields : Fields Shape
  documents : Nat

namespace Sample

/-- No document seen. -/
def empty : Sample := ⟨.empty, 0⟩

instance : Inhabited Sample := ⟨empty⟩

/-- The documents sampled where no size is configured. -/
def defaultSize : Nat := 10

/-- Take in one document. -/
def add (s : Sample) (d : Document) : Sample :=
  ⟨⟨Shape.mergeEntries s.fields.entries (Shape.ofEntries d.entries)⟩, s.documents + 1⟩

/-- The schema of what has been seen. -/
def schema (s : Sample) : Schema := .ofColumns (Shape.columns s.fields.entries)

/-- The sample of all of the documents. -/
def ofDocuments (ds : List Document) : Sample := ds.foldl add empty

end Sample

/-- The schema of at most `size` documents. -/
def Schema.infer (ds : List Document) (size : Nat) : Schema :=
  (Sample.ofDocuments (ds.take size)).schema

/-- The schema of at most `size` items of a source that can fail.  The first failure among them is
the answer. -/
def Schema.inferFrom {ε : Type} (items : List (Except ε Document)) (size : Nat) :
    Except ε Schema := do
  let sample ← (items.take size).foldlM (fun s item => item.map s.add) Sample.empty
  return sample.schema

end DocTables
