/-
# Records in JSON text

A record with named fields is read from an object, in any order, or from an array, in the order of
its fields.  Members under other names are passed over without a look at what they stand for; a
field that stands twice, or an array with more items than fields, is refused.
-/
import DocTables.Json.Draft
import DocTables.Dictionary
import DocTables.Text.Numeral

namespace DocTables.Json

/-- The contents of the named fields of a record, each missing or present. -/
def Draft.fields? (names : List String) : Draft → Option (List (Option Draft))
  | .object members => do
    let members ← members.mapM fun (name, d) => name.map (·, d)
    names.mapM fun name =>
      match members.filter (·.1 == name) with
      | [] => some none
      | [(_, d)] => some (some d)
      | _ => none
  | .array items =>
    if items.length ≤ names.length then
      some (items.map some ++ List.replicate (names.length - items.length) none)
    else none
  | _ => none

/-- The text that a draft stands for. -/
def Draft.text? : Draft → Option String
  | .string s => s
  | _ => none

/-- The truth value that a draft stands for. -/
def Draft.bool? : Draft → Option Bool
  | .bool b => some b
  | _ => none

/-- The size that a draft stands for: a whole number from zero. -/
def Draft.size? : Draft → Option Nat
  | .number (some (.integer n)) => if 0 ≤ n ∧ n ≤ Text.maxSize then some n.toNat else none
  | _ => none

/-- The texts under the names of an object.  A name that stands twice takes its last text. -/
def Draft.dictionary? : Draft → Option Dictionary
  | .object members => do
    let entries ← members.mapM fun (name, d) => do return (← name, ← d.text?)
    return .ofList entries
  | _ => none

/-- A missing field takes its default; a present one has to be readable. -/
def orDefault {α : Type} (default : α) (read? : Draft → Option α) : Option Draft → Option α
  | none => some default
  | some d => read? d

/-- Texts under keys as JSON. -/
def ofDictionary (d : Dictionary) : Json := .object (d.entries.map fun e => (e.1, .string e.2))

end DocTables.Json
