/-
# Sampling a chain

A sample takes in the first documents of a chain.  An error among them is the answer; what comes
after the last document of the sample is neither read nor opened.
-/
import DocTables.Chain
import DocTables.Inference.Sample

namespace DocTables.Chain

/-- Take at most a number of documents of a chain into a sample. -/
def sampleInto (s : Sample) (c : Chain) : Nat → Except CursorError Sample × Chain
  | 0 => (.ok s, c)
  | n + 1 =>
    match c.next? with
    | (none, c) => (.ok s, c)
    | (some (.error e), c) => (.error e, c)
    | (some (.ok d), c) => c.sampleInto (s.add d) n

/-- The schema of at most a number of documents of a chain, which is closed afterwards.  An error in
reading goes before one in closing. -/
def inferSchema (c : Chain) (size : Nat) : Except CursorError Schema × Ledger :=
  let (sampled, c) := c.sampleInto .empty size
  let (closed, c) := c.close
  (do let sample ← sampled; closed; return sample.schema, c.ledger)

end DocTables.Chain
