/-
# Queries on a collection

A query asks for the documents that have certain field values, for some of their fields only, and
for no more than a number of them.  Field values are compared under their exact names; the fields to
keep are named without regard to ASCII case, and `_id` is kept unless it is excluded.
-/
import DocTables.Value

namespace DocTables

/-- What is asked of a collection. -/
structure Query where
  /-- The values that a document has to have. -/
  filter : Option Document
  /-- The fields to keep, marked by their values. -/
  projection : Option Document
  /-- The greatest number of documents. -/
  limit : Option Nat

namespace Query

/-- The query for all documents. -/
def all : Query := ⟨none, none, none⟩

/-- Whether a document has all values of a filter. -/
def satisfies (d filter : Document) : Bool :=
  filter.entries.all fun (name, expected) => (d.get? name).any (· == expected)

/-- Whether a document is asked for. -/
def selects (q : Query) (d : Document) : Bool :=
  match q.filter with
  | some filter => satisfies d filter
  | none => true

/-- Whether the mark of a field asks for it: anything but false and zero does. -/
def isMarked : Value → Bool
  | .bool b => b
  | .int32 n => n != 0
  | .int64 n => n != 0
  | .float64 f => f != 0.0
  | _ => true

/-- The name of the field that is kept unless it is excluded. -/
def idField : String := "_id"

/-- Whether a projection keeps the field of a name. -/
def keeps (projection : Document) (name : String) : Bool :=
  (projection.entries.any fun e => isMarked e.2 && Text.eqIgnoreCase e.1 name) ||
    (name == idField && (projection.get? idField).all isMarked)

/-- The fields of a document that a projection keeps; all of them if it marks none. -/
def project (projection d : Document) : Document :=
  if projection.entries.any fun e => isMarked e.2 then
    ⟨d.entries.filter fun e => keeps projection e.1⟩
  else d

/-- The part of a document that is asked for. -/
def shape (q : Query) (d : Document) : Document :=
  match q.projection with
  | some projection => project projection d
  | none => d

/-- What is left of a query when a number of documents has been handed out. -/
def after (q : Query) (n : Nat) : Query := { q with limit := q.limit.map (· - n) }

@[simp] theorem shape_after (q : Query) (n : Nat) : (q.after n).shape = q.shape := rfl

@[simp] theorem limit_after (q : Query) (n : Nat) : (q.after n).limit = q.limit.map (· - n) := rfl

@[simp] theorem after_zero (q : Query) : q.after 0 = q := by
  cases q with
  | mk filter projection limit => cases limit <;> rfl

@[simp] theorem after_after (q : Query) (n m : Nat) : (q.after n).after m = q.after (n + m) := by
  cases q with
  | mk filter projection limit =>
    cases limit with
    | none => rfl
    | some most => simp only [after, Option.map_some, Nat.sub_sub]

/-- The query allows no more documents. -/
theorem limit_after_eq_zero_iff {q : Query} {n : Nat} :
    (q.after n).limit = some 0 ↔ q.limit.any (· ≤ n) = true := by
  cases h : q.limit <;> simp [h, Nat.sub_eq_zero_iff_le]

end Query

end DocTables
