/-
# The size of a pattern

A pattern is refused if one of its two machines would be too large: the one that reads the bytes of
a text forwards and notes what the groups take, or the one that reads them backwards.  A state takes
thirty-two units, each way of a choice four more and each range of bytes that leads to another state
eight more.

The states for a set of characters share what they can.  Forwards, two states that lead to the same
places are one; backwards, two forms that start with the same bytes share the states of these bytes.
What has been built is kept in a table with few slots, where a later state takes the slot of an
earlier one, so not all that could be shared is.

Nothing is really built: a `Tally` counts states, whose numbers are all that the tables need.
-/
import DocTables.Regex.Outline
import Std.Data.TreeMap

namespace DocTables.Regex.Footprint

/-- The size of a state. -/
def stateSize : Nat := 32

/-- The size of a way of a choice. -/
def waySize : Nat := 4

/-- The size of a range of bytes that leads to a state. -/
def spanSize : Nat := 8

/-- The greatest size of a machine. -/
def limit : Nat := 10 * 1024 * 1024

/-- What has been built. -/
structure Tally where
  states : Nat
  /-- The size of what states have beside themselves. -/
  extra : Nat

/-- The size of what has been built. -/
def Tally.size (t : Tally) : Nat := stateSize * t.states + t.extra

/-- A step of building.  It fails when the machine gets too large. -/
abbrev Build := StateT Tally Option

/-- Build states with the given number of extra units; the result is the number of the first. -/
def build (states extra : Nat) : Build Nat := fun t =>
  let next : Tally := ⟨t.states + states, t.extra + extra⟩
  if next.size ≤ limit then some (t.states, next) else none

/-- Lead on from a part.  That takes a way if the part ends in a choice. -/
def link (choice : Bool) : Build Unit := do
  if choice then let _ ← build 0 waySize

/-! ## 1. Sets of characters -/

/-- The states that have been built for a set, with what they stand for, by slots. -/
abbrev Known := Std.TreeMap Nat (List Nat × Nat)

/-- The number of slots forwards. -/
def forwardSlots : Nat := 10000

/-- The number of slots backwards. -/
def backwardSlots : Nat := 1000

/-- A digest of numbers: each is mixed in and multiplied by a prime, modulo two to the sixty-fourth.
-/
def digest (numbers : List Nat) : Nat :=
  (numbers.foldl (fun h n => (h ^^^ UInt64.ofNat n) * 1099511628211)
    (14695981039346656037 : UInt64)).toNat

/-- The state that stands for the numbers, a new one if it is not known. -/
def share (slots : Nat) (numbers : List Nat) (extra : Nat) (known : Known) :
    Build (Nat × Known) := do
  let slot := digest numbers % slots
  let found := match known[slot]? with
    | some (other, state) => if other = numbers then some state else none
    | none => none
  match found with
  | some state => return (state, known)
  | none =>
    let state ← build 1 extra
    return (state, known.insert slot (numbers, state))

/-- The state that reads one of the forms and leads to `finish`.  Forms with the same range for the
first byte stand together. -/
def addForms (finish : Nat) : Nat → List Text.ByteForm → Known → Build (Nat × Known)
  | 0, _, known => return (finish, known)
  | depth + 1, forms, known => do
    let groups := forms.splitBy fun a b => a.head? == b.head?
    let (numbers, known) ← groups.foldlM (fun (numbers, known) group => do
      let (low, high) := (group.head?.bind List.head?).getD (0, 0)
      let rests := group.map List.tail
      let (next, known) ← if rests.all List.isEmpty then pure (finish, known)
        else addForms finish depth rests known
      return (numbers ++ [low, high, next], known)) ([], known)
    share forwardSlots numbers (spanSize * groups.length) known

/-- Build a set of which some character is not ASCII, forwards. -/
def addSetForward (forms : List Text.ByteForm) : Build Unit := do
  let finish ← build 1 0
  let _ ← addForms finish 4 forms ∅

/-- Build a set of which some character is not ASCII, backwards. -/
def addSetBackward (forms : List Text.ByteForm) : Build Unit := do
  let finish ← (· + 1) <$> build 2 0
  let _ ← forms.foldlM (fun known form => do
    let (_, known) ← form.foldlM (fun (next, known) (low, high) =>
      share backwardSlots [next, low, high] 0 known) (finish, known)
    let _ ← build 0 waySize
    return known) (∅ : Known)

/-- Build a set. -/
def addSet (backward : Bool) (forms : List Text.ByteForm) : Build Unit := do
  if forms.all (·.length == 1) then let _ ← build 2 (spanSize * forms.length)
  else if backward then addSetBackward forms
  else addSetForward forms

/-! ## 2. Choices among literals -/

/-- The bytes of a literal. -/
def bytesOf (codes : List Nat) : List Nat :=
  codes.flatMap fun code => (Text.ByteForm.ofRange (code, code)).flatten.map Prod.fst

/-- The bytes of the ways of a choice, if each is a literal. -/
def literals? (o : Outline) : Option (List (List Nat)) :=
  match o with
  | .choice _ _ => o.ways.mapM fun
    | .literal codes => some (bytesOf codes)
    | _ => none
  | _ => none

/-- Literals divided at the empty ones, which end a way where others go on.  Of empty ones at the
start only the first counts; `started` says whether anything has come before. -/
def stretches (started closed : Bool) : List (List Nat) → List (List (List Nat))
  | [] => [[]]
  | [] :: rest =>
    if closed && !started then stretches started closed rest
    else [] :: stretches started true rest
  | word :: rest =>
    match stretches true closed rest with
    | first :: others => (word :: first) :: others
    | [] => [[word]]

/-- Build the states for literals that have been read up to here. -/
def addLiterals : Nat → List (List Nat) → Build Unit
  | 0, _ => return ()
  | fuel + 1, words => do
    let stretches := stretches false false words
    for stretch in stretches do
      let firsts := (stretch.filterMap List.head?).eraseDups
      for first in firsts do
        let rests := (stretch.filter (·.head? == some first)).map List.tail
        if !rests.all List.isEmpty then addLiterals fuel rests
      if firsts.length = 1 then let _ ← build 1 0
      else if 1 < firsts.length then let _ ← build 1 (spanSize * firsts.length)
    let used := (stretches.filter (!·.isEmpty)).length
    let _ ← build 1 (waySize * (used + (stretches.length - 1)))

/-- Build a choice among literals. -/
def addLiteralChoice (backward : Bool) (words : List (List Nat)) : Build Unit := do
  let words := if backward then words.map List.reverse else words
  let _ ← build 1 0
  addLiterals ((words.map List.length).foldl max 0 + 1) words

/-! ## 3. Parts

A part is built by a step whose result says whether the part ends in a choice. -/

/-- A single state. -/
def single : Build Bool := do
  let _ ← build 1 0
  return false

/-- Copies of a part after one that ends in a choice or not. -/
def copies (part : Build Bool) : Nat → Bool → Build Bool
  | 0, choice => return choice
  | n + 1, choice => do
    let next ← part
    link choice
    copies part n next

/-- A number of copies of a part. -/
def exactly (part : Build Bool) : Nat → Build Bool
  | 0 => single
  | n + 1 => do copies part n (← part)

/-- Copies of a part, in front of each of which the repetition can be left. -/
def options (part : Build Bool) : Nat → Bool → Build Bool
  | 0, choice => do
    link choice
    return false
  | n + 1, choice => do
    let _ ← build 1 (2 * waySize)
    let next ← part
    link choice
    options part n next

/-- A repetition; `nullable` says that the part may match without reading anything. -/
def repeated (part : Build Bool) (nullable : Bool) : Nat → Option Nat → Build Bool
  | 0, none => do
    if nullable then
      link (← part)
      let _ ← build 3 (4 * waySize)
      return false
    else
      let _ ← build 1 waySize
      link (← part)
      return true
  | min + 1, none => do
    if min = 0 then
      link (← part)
      let _ ← build 1 waySize
    else
      link (← exactly part min)
      link (← part)
      let _ ← build 1 waySize
    return true
  | min, some max => do
    if min = 0 ∧ max = 1 then
      let _ ← build 1 (2 * waySize)
      link (← part)
      single
    else if min = max then exactly part min
    else
      let choice ← exactly part min
      let _ ← build 1 0
      options part (max - min) choice

/-- A choice among parts. -/
def choice : List (Build Bool) → Build Bool
  | [] => single
  | [part] => part
  | first :: second :: rest => do
    let a ← first
    let b ← second
    let _ ← build 2 (2 * waySize)
    link a
    link b
    for part in rest do
      link (← part)
      let _ ← build 0 waySize
    return false

/-- The part of an outline whose ways are the given parts. -/
def whole (backward : Bool) (o : Outline) (ways : List (Build Bool)) : Build Bool :=
  match literals? o with
  | some words => do
    addLiteralChoice backward words
    return false
  | none => choice ways

/-- The parts of the ways of an outline. -/
def ways (backward : Bool) : Outline → List (Build Bool)
  | .empty => [single]
  | .literal codes => [do
      let _ ← build (Outline.literalLength codes) 0
      return false]
  | .set _ forms => [do
      addSet backward forms
      return false]
  | .look _ => [single]
  | .capture _ o =>
    let body := whole backward o (ways backward o)
    if backward then [body]
    else [do
      let _ ← build 1 0
      link (← body)
      single]
  | .sequence a b =>
    let first := whole backward a (ways backward a)
    let rest := whole backward b (ways backward b)
    [do
      let choice ← if backward then rest else first
      let next ← if backward then first else rest
      link choice
      return next]
  | .choice a b => whole backward a (ways backward a) :: ways backward b
  | .repetition min max _ o =>
    [repeated (whole backward o (ways backward o)) (o.least?.all (· == 0)) min max]

/-- A machine for an outline: the search for a start unless that is known, the outline, with the
note of the whole match forwards, and the acceptance. -/
def machine (backward : Bool) (o : Outline) : Build Unit := do
  let fixed := if backward then o.endsText else o.startsText
  let _ ← if fixed then build 1 0 else build 3 (2 * waySize + spanSize)
  if backward then link (← whole backward o (ways backward o))
  else
    let _ ← build 1 0
    link (← whole backward o (ways backward o))
    let _ ← build 1 0
  let _ ← build 1 0

end Footprint

/-- Whether the machines for an expression are small enough. -/
def Expr.fits (e : Expr) : Bool :=
  let o := Outline.ofExpr e
  [false, true].all fun backward => ((Footprint.machine backward o).run ⟨0, 0⟩).isSome

end DocTables.Regex
