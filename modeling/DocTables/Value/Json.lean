/-
# Values as JSON

JSON has no identifiers, timestamps, dates, decimals or bytes: these are written as objects whose
only member has a reserved name, such as `$oid`.  Reading turns such objects back into values,
unless what stands under the name does not fit; then the object is an ordinary document.  Whole
numbers are read as the smallest integer type that holds them, and as decimals beyond 64 bits.
-/
import DocTables.Value
import DocTables.Json.Basic

namespace DocTables.Value

/-- A number that JSON can hold; null for any other. -/
def jsonOfFloat (f : Float) : Json := if f.isFinite then .number (.real f) else .null

/-- An object with one member. -/
def wrapped (name : String) (content : Json) : Json := .object [(name, content)]

mutual

/-- A value as JSON. -/
def toJson : Value → Json
  | .null => .null
  | .bool b => .bool b
  | .int32 n => .number (.integer n.toInt)
  | .int64 n => .number (.integer n.toInt)
  | .float32 f => jsonOfFloat f.toFloat
  | .float64 f => jsonOfFloat f
  | .decimal d => wrapped "$numberDecimal" (.string d)
  | .string s => .string s
  | .objectId id => wrapped "$oid" (.string id.text)
  | .timestamp t => wrapped "$timestamp" (.object
      [("t", .number (.integer t.time.toNat)), ("i", .number (.integer t.increment.toNat))])
  | .dateTime i => wrapped "$date" (.string i.text)
  | .binary bytes => wrapped "$binary" (.string (Text.Hex.ofBytes bytes))
  | .array items => .array (itemsToJson items)
  | .document ⟨entries⟩ => .object (entriesToJson entries)

/-- The items of an array as JSON. -/
def itemsToJson : List Value → List Json
  | [] => []
  | v :: rest => v.toJson :: itemsToJson rest

/-- The fields of a document as JSON. -/
def entriesToJson : List (String × Value) → List (String × Json)
  | [] => []
  | (k, v) :: rest => (k, v.toJson) :: entriesToJson rest

end

/-- A number without a sign that fits in 32 bits. -/
def word? (j : Json) : Option UInt32 := do
  let n ← j.integer?
  if 0 ≤ n ∧ n < 0x100000000 then some (UInt32.ofNat n.toNat) else none

/-- The instant that stands under `$date`: text, or milliseconds as a number or in a wrapper. -/
def dateOfJson? : Json → Option Instant
  | .string s => Instant.parse? s
  | .number (.integer n) => if Text.fitsInt64 n then Instant.ofMillis? n else none
  | .object members => do
    let text ← (← Json.member? "$numberLong" (.object members)).text?
    Instant.ofMillis? (← Text.int64? text.toList)
  | _ => none

/-- The value of an object with a single member, if its name is reserved and its content fits. -/
def unwrap? (name : String) (content : Json) : Option Value :=
  match name with
  | "$oid" => do (ObjectId.parse (← content.text?)).toOption.map .objectId
  | "$date" => (dateOfJson? content).map .dateTime
  | "$timestamp" => do
    let time ← word? (← content.member? "t")
    let increment ← word? (← content.member? "i")
    return .timestamp ⟨time, increment⟩
  | "$numberDecimal" => content.text?.map .decimal
  | "$numberLong" => do
    let n ← Text.int64? (← content.text?).toList
    return .int64 (Int64.ofInt n)
  | _ => none

/-- The reserved value of an object that has one name only. -/
def special? (members : List (String × Json)) : Option Value :=
  match (Fields.ofList members).entries with
  | [(name, content)] => unwrap? name content
  | _ => none

/-- A JSON number as a value. -/
def ofNumber : Json.Number → Value
  | .integer n =>
    if Text.fitsInt32 n then .int32 (Int32.ofInt n)
    else if Text.fitsInt64 n then .int64 (Int64.ofInt n)
    else .decimal (Text.ofInt n)
  | .real f => .float64 f

mutual

/-- The value that JSON stands for.  Of members with the same name the last counts, at the place of
the first. -/
def ofJson : Json → Value
  | .null => .null
  | .bool b => .bool b
  | .number n => ofNumber n
  | .string s => .string s
  | .array items => .array (itemsOfJson items)
  | .object members =>
    match special? members with
    | some v => v
    | none => .document (Fields.ofList (entriesOfJson members))

/-- The items of a JSON array as values. -/
def itemsOfJson : List Json → List Value
  | [] => []
  | j :: rest => ofJson j :: itemsOfJson rest

/-- The members of a JSON object as named values. -/
def entriesOfJson : List (String × Json) → List (String × Value)
  | [] => []
  | (k, j) :: rest => (k, ofJson j) :: entriesOfJson rest

end

end DocTables.Value

namespace DocTables.Document

/-- A document as JSON. -/
def toJson (d : Document) : Json := (Value.document d).toJson

/-- The wording of the refusal of a value that is no document. -/
def expected (found : Value) : String := "Expected a JSON object, found " ++ found.typeName

/-- The document that JSON stands for, or why it is none. -/
def ofJson (j : Json) : Except String Document :=
  match Value.ofJson j with
  | .document d => .ok d
  | v => .error (expected v)

end DocTables.Document
