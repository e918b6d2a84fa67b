/-
# Object identifiers

The identifiers that a store gives to its documents: twelve bytes, written as twenty-four lower-case
hexadecimal digits.
-/
import DocTables.Text.Hex

namespace DocTables

/-- A store's own identifier of a document. -/
structure ObjectId where
  bytes : List UInt8
  length_bytes : bytes.length = 12
deriving DecidableEq

namespace ObjectId

/-- Why a text is no identifier. -/
inductive Error where
  /-- The text does not have twenty-four characters, or not all of them are ASCII. -/
  | length (text : String)
  /-- Some pair of characters is no byte. -/
  | digit (text : String)
deriving DecidableEq

/-- The wording of an error. -/
def Error.message : Error → String
  | .length s => "Invalid object id '" ++ s ++ "': expected 24 hex characters"
  | .digit s => "Invalid object id '" ++ s ++ "': invalid digit found in string"

/-- An identifier as text. -/
def text (id : ObjectId) : String := Text.Hex.ofBytes id.bytes

/-- The byte that a pair of characters stands for.  A plus sign stands for no digit. -/
def byte? (high low : Char) : Option UInt8 :=
  if high == '+' then (Text.Hex.digit? low).map UInt8.ofNat
  else do
    let h ← Text.Hex.digit? high
    let l ← Text.Hex.digit? low
    return UInt8.ofNat (h * 16 + l)

/-- The bytes that pairs of characters stand for. -/
def bytes? : List Char → Option (List UInt8)
  | a :: b :: rest => do
    let byte ← byte? a b
    let tail ← bytes? rest
    return byte :: tail
  | _ => some []

/-- The identifier that a text stands for. -/
def parse (s : String) : Except Error ObjectId :=
  if s.utf8ByteSize ≠ 24 ∨ s.toList.any (fun c => c.toNat ≥ 128) then .error (.length s)
  else match bytes? s.toList with
    | some bytes => if h : bytes.length = 12 then .ok ⟨bytes, h⟩ else .error (.length s)
    | none => .error (.digit s)

end ObjectId

end DocTables
