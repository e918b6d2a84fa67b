/-
# Document values

A document store holds values whose type is known only when they are read.  `Value` lists the types;
`Document` is an ordered set of named values.

Values are compared as the store compares them: two values of different types are never equal,
fields count in their order, and numbers are compared as numbers, so that zero equals minus zero and
a value that is no number equals nothing.
-/
import DocTables.Fields
import DocTables.Instant
import DocTables.ObjectId

namespace DocTables

/-- A store's replication timestamp: seconds since 1970 and the rank of the operation within the
second. -/
structure Timestamp where
  time : UInt32
  increment : UInt32
deriving DecidableEq

/-- The instant of a timestamp. -/
def Timestamp.instant? (t : Timestamp) : Option Instant := Instant.ofMillis? (t.time.toNat * 1000)

/-- A value of a document. -/
inductive Value where
  | null
  | bool (value : Bool)
  | int32 (value : Int32)
  | int64 (value : Int64)
  | float32 (value : Float32)
  | float64 (value : Float)
  /-- A decimal number of any precision, kept as it is written. -/
  | decimal (text : String)
  | string (text : String)
  | objectId (id : ObjectId)
  | timestamp (stamp : Timestamp)
  | dateTime (instant : Instant)
  | binary (bytes : List UInt8)
  | array (items : List Value)
  | document (fields : Fields Value)

/-- A document: named values in order. -/
abbrev Document := Fields Value

namespace Value

instance : Inhabited Value := ⟨.null⟩

/-- Whether the value is null. -/
def isNull : Value → Bool
  | .null => true
  | _ => false

/-- The text of a string. -/
def text? : Value → Option String
  | .string s => some s
  | _ => none

/-- The name of the type of a value. -/
def typeName : Value → String
  | .null => "null"
  | .bool _ => "bool"
  | .int32 _ => "int32"
  | .int64 _ => "int64"
  | .float32 _ => "float32"
  | .float64 _ => "float64"
  | .decimal _ => "decimal"
  | .string _ => "string"
  | .objectId _ => "objectId"
  | .timestamp _ => "timestamp"
  | .dateTime _ => "date"
  | .binary _ => "binary"
  | .array _ => "array"
  | .document _ => "document"

mutual

/-- Whether two values are equal. -/
def equal : Value → Value → Bool
  | .null, .null => true
  | .bool a, .bool b => a == b
  | .int32 a, .int32 b => a == b
  | .int64 a, .int64 b => a == b
  | .float32 a, .float32 b => a == b
  | .float64 a, .float64 b => a == b
  | .decimal a, .decimal b => a == b
  | .string a, .string b => a == b
  | .objectId a, .objectId b => a == b
  | .timestamp a, .timestamp b => a == b
  | .dateTime a, .dateTime b => a == b
  | .binary a, .binary b => a == b
  | .array a, .array b => equalItems a b
  | .document ⟨a⟩, .document ⟨b⟩ => equalEntries a b
  | _, _ => false

/-- Whether two lists of values are equal, item by item. -/
def equalItems : List Value → List Value → Bool
  | [], [] => true
  | a :: as, b :: bs => a.equal b && equalItems as bs
  | _, _ => false

/-- Whether two lists of fields are equal, field by field. -/
def equalEntries : List (String × Value) → List (String × Value) → Bool
  | [], [] => true
  | (k, a) :: as, (l, b) :: bs => k == l && a.equal b && equalEntries as bs
  | _, _ => false

end

instance : BEq Value := ⟨equal⟩

end Value

/-- Whether two documents have equal fields in the same order. -/
instance : BEq Document := ⟨fun a b => Value.equalEntries a.entries b.entries⟩

end DocTables
