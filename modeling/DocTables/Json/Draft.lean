/-
# JSON text as a tree

`Draft` is the shape of well formed JSON text.  A leaf or a name can stand for no value (a number
beyond double precision, half a character): a reader that skips a part of the text does not mind,
one that wants the value does.  `Draft.parse?` feeds the tokens one by one to a machine whose state
is the stack of the brackets that are still open.
-/
import DocTables.Json.Token

namespace DocTables.Json

/-- Well formed JSON text. -/
inductive Draft where
  | null
  | bool (value : Bool)
  | number (value : Option Number)
  | string (value : Option String)
  | array (items : List Draft)
  | object (members : List (Option String × Draft))

/-- An open bracket with what has been read since, the last first. -/
inductive Frame where
  | array (items : List Draft)
  | object (members : List (Option String × Draft)) (name : Option String)

/-- What the machine waits for. -/
inductive Progress where
  /-- A value. -/
  | value (stack : List Frame)
  /-- A value, or the end of an array that has just been opened. -/
  | firstItem (stack : List Frame)
  /-- A name; the end of the object too if it has just been opened. -/
  | name (members : List (Option String × Draft)) (stack : List Frame)
  /-- The colon after a name. -/
  | colon (members : List (Option String × Draft)) (name : Option String) (stack : List Frame)
  /-- A comma or the end of the innermost bracket. -/
  | separator (frame : Frame) (stack : List Frame)
  /-- Nothing more. -/
  | done (draft : Draft)

/-- Put a finished value into the innermost open bracket. -/
def Progress.finish (draft : Draft) : List Frame → Progress
  | [] => .done draft
  | .array items :: stack => .separator (.array (draft :: items)) stack
  | .object members key :: stack => .separator (.object ((key, draft) :: members) none) stack

/-- Take a token where a value is due. -/
def Progress.start (stack : List Frame) : Token → Option Progress
  | .null => some (finish .null stack)
  | .bool b => some (finish (.bool b) stack)
  | .number n => some (finish (.number n) stack)
  | .string s => some (finish (.string s) stack)
  | .openArray => some (.firstItem stack)
  | .openObject => some (.name [] stack)
  | _ => none

/-- Take the next token. -/
def Progress.step : Progress → Token → Option Progress
  | .value stack, t => start stack t
  | .firstItem stack, .closeArray => some (finish (.array []) stack)
  | .firstItem stack, t => start (.array [] :: stack) t
  | .name members stack, .string s => some (.colon members s stack)
  | .name [] stack, .closeObject => some (finish (.object []) stack)
  | .colon members key stack, .colon => some (.value (.object members key :: stack))
  | .separator (.array items) stack, .comma => some (.value (.array items :: stack))
  | .separator (.array items) stack, .closeArray => some (finish (.array items.reverse) stack)
  | .separator (.object members _) stack, .comma => some (.name members stack)
  | .separator (.object members _) stack, .closeObject =>
    some (finish (.object members.reverse) stack)
  | _, _ => none

/-- The tree that a text holds; none unless it holds exactly one value. -/
def Draft.parse? (text : String) : Option Draft := do
  match ← (← tokens? text).foldlM Progress.step (.value []) with
  | .done draft => some draft
  | _ => none

/-! ## Drafts as values -/

mutual

/-- The value that a draft stands for, if every part of it stands for one and no more than `depth`
brackets are open at once. -/
def Draft.value? (depth : Nat) : Draft → Option Json
  | .null => some .null
  | .bool b => some (.bool b)
  | .number n => n.map .number
  | .string s => s.map .string
  | .array items =>
    match depth with
    | 0 => none
    | depth + 1 => (Draft.items? depth items).map .array
  | .object members =>
    match depth with
    | 0 => none
    | depth + 1 => (Draft.members? depth members).map .object

/-- The values of a list of drafts. -/
def Draft.items? (depth : Nat) : List Draft → Option (List Json)
  | [] => some []
  | d :: rest => do
    let j ← d.value? depth
    let tail ← Draft.items? depth rest
    return j :: tail

/-- The names and values of a list of members. -/
def Draft.members? (depth : Nat) : List (Option String × Draft) → Option (List (String × Json))
  | [] => some []
  | (name, d) :: rest => do
    let name ← name
    let j ← d.value? depth
    let tail ← Draft.members? depth rest
    return (name, j) :: tail

end

/-- The greatest number of brackets that may be open at once. -/
def maxDepth : Nat := 127

/-- The value that a text holds. -/
def parse? (text : String) : Option Json := do (← Draft.parse? text).value? maxDepth

end DocTables.Json
