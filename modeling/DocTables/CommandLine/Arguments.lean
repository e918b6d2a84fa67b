/-
# Command-line arguments

A command is named after the options that hold for all commands, and followed by its own options and
its operands; the options that hold for all may stand there too and then take precedence.  An option
has a long name after two dashes, and some have a letter after one; letters may be joined.  A value
follows its option as the next argument, or after an equals sign, or right after the letter.  After
two dashes alone there are only operands.

Arguments are read from left to right, and the first that is not understood ends the reading.
-/
import DocTables.Text.Numeral

namespace DocTables

/-- What is to be done. -/
inductive Command where
  /-- List the databases. -/
  | schemas
  /-- List the tables of a database. -/
  | tables (database : String)
  /-- Show what is known about a table. -/
  | infer (database table : String) (sampleSize : Option Nat)
  /-- Print the rows of a table. -/
  | scan (database table : String) (limit : Option Nat) (filter : Option String)
deriving Repr, DecidableEq

/-- A command with the options that hold for all commands. -/
structure Invocation where
  /-- The folder with the configuration file. -/
  configFolder : String
  /-- The connection that takes the place of the configured one. -/
  root : Option String
  /-- The catalog whose connection is used. -/
  catalog : String
  command : Command
deriving Repr, DecidableEq

namespace Invocation

/-- Why arguments are no invocation. -/
inductive Stop where
  /-- They are not understood. -/
  | usage
  /-- Help is asked for. -/
  | help
  /-- The version is asked for. -/
  | version
deriving Repr, DecidableEq

/-! ## 1. Options -/

/-- An option. -/
inductive Switch where
  | configFolder
  | root
  | catalog
  | verbose
  | help
  | version
  | sampleSize
  | limit
  | filter
deriving Repr, DecidableEq

namespace Switch

/-- The name of an option after two dashes. -/
def long : Switch → String
  | configFolder => "config-dir"
  | root => "root"
  | catalog => "catalog"
  | verbose => "verbose"
  | help => "help"
  | version => "version"
  | sampleSize => "sample-size"
  | limit => "limit"
  | filter => "filter"

/-- The letter of an option after one dash. -/
def letter? : Switch → Option Char
  | verbose => some 'v'
  | help => some 'h'
  | version => some 'V'
  | sampleSize => some 's'
  | limit => some 'l'
  | filter => some 'f'
  | _ => none

/-- Whether an option has a value. -/
def takesValue : Switch → Bool
  | verbose | help | version => false
  | _ => true

/-- Whether a text can be the value of an option. -/
def accepts (s : Switch) (value : String) : Bool :=
  match s with
  | configFolder => !value.isEmpty
  | sampleSize | limit => (Text.size? value).isSome
  | _ => true

/-- The options that hold for all commands. -/
def shared : List Switch := [configFolder, root, catalog, verbose, help]

end Switch

/-- The options and operands that have been read. -/
structure Found where
  values : List (Switch × String)
  operands : List String

namespace Found

/-- Nothing read. -/
def empty : Found := ⟨[], []⟩

/-- The value of an option. -/
def value? (f : Found) (s : Switch) : Option String := f.values.lookup s

/-- Take the value of an option; there must not be one already. -/
def addValue (f : Found) (s : Switch) (value : String) : Except Stop Found :=
  if (f.value? s).isSome || !s.accepts value then .error .usage
  else .ok { f with values := f.values ++ [(s, value)] }

/-- Take an option that has no value. -/
def addFlag (f : Found) : Switch → Except Stop Found
  | .help => .error .help
  | .version => .error .version
  | _ => .ok f

end Found

/-! ## 2. Reading from left to right -/

/-- What may stand in a row of arguments. -/
structure Grammar where
  switches : List Switch
  /-- The greatest number of operands. -/
  operands : Nat
  /-- The words that end the row. -/
  commands : List String

/-- An argument by its form. -/
inductive Argument where
  /-- The end of the options. -/
  | separator
  | long (name : List Char) (value : Option (List Char))
  | letters (letters : List Char)
  | operand

/-- The form of an argument.  A dash alone is an operand. -/
def Argument.ofChars : List Char → Argument
  | ['-', '-'] => .separator
  | '-' :: '-' :: rest =>
    .long (rest.takeWhile (· != '=')) ((rest.dropWhile (· != '=')).tail?)
  | ['-'] => .operand
  | '-' :: rest => .letters rest
  | _ => .operand

/-- Whether an argument can be the value of the option in front of it. -/
def isValue (argument : String) : Bool :=
  match Argument.ofChars argument.toList with
  | .operand => true
  | _ => false

/-- Take joined letters.  The option whose value is still to come is returned with what has been
found. -/
def addLetters (g : Grammar) (f : Found) : List Char → Except Stop (Found × Option Switch)
  | [] => .ok (f, none)
  | c :: rest =>
    match g.switches.find? (·.letter? == some c) with
    | none => .error .usage
    | some s =>
      if s.takesValue then
        match rest with
        | [] => .ok (f, some s)
        | '=' :: value => (f.addValue s (String.ofList value)).map (·, none)
        | value => (f.addValue s (String.ofList value)).map (·, none)
      else
        match f.addFlag s with
        | .ok f => addLetters g f rest
        | .error e => .error e

/-- Take a long option.  The option whose value is still to come is returned with what has been
found. -/
def addLong (g : Grammar) (f : Found) (name : List Char) (value : Option (List Char)) :
    Except Stop (Found × Option Switch) :=
  match g.switches.find? (·.long.toList == name), value with
  | none, _ => .error .usage
  | some s, some value =>
    if s.takesValue then (f.addValue s (String.ofList value)).map (·, none) else .error .usage
  | some s, none =>
    if s.takesValue then .ok (f, some s) else (f.addFlag s).map (·, none)

/-- Take operands. -/
def addOperands (g : Grammar) (f : Found) (operands : List String) : Except Stop Found :=
  let operands := f.operands ++ operands
  if operands.length ≤ g.operands then .ok { f with operands := operands } else .error .usage

/-- Read a row of arguments up to a word that ends it, which is left with all that follows.
`pending` is the option whose value has to come next. -/
def read (g : Grammar) (pending : Option Switch) (f : Found) :
    List String → Except Stop (Found × List String)
  | [] => if pending.isSome then .error .usage else .ok (f, [])
  | argument :: rest =>
    match pending with
    | some s =>
      if isValue argument then
        match f.addValue s argument with
        | .ok f => read g none f rest
        | .error e => .error e
      else .error .usage
    | none =>
      if g.commands.contains argument then .ok (f, argument :: rest)
      else
        match Argument.ofChars argument.toList with
        | .separator => (addOperands g f rest).map (·, [])
        | .operand =>
          match addOperands g f [argument] with
          | .ok f => read g none f rest
          | .error e => .error e
        | .letters cs =>
          match addLetters g f cs with
          | .ok (f, pending) => read g pending f rest
          | .error e => .error e
        | .long name value =>
          match addLong g f name value with
          | .ok (f, pending) => read g pending f rest
          | .error e => .error e

/-! ## 3. Commands -/

/-- The names of the commands, each with its own options and the number of its operands. -/
def commands : List (String × List Switch × Nat) :=
  [("schemas", [], 0), ("tables", [], 1), ("infer", [.sampleSize], 2),
   ("scan", [.limit, .filter], 2)]

/-- The word that asks for help on a command. -/
def helpWord : String := "help"

/-- What may stand in front of a command. -/
def outerGrammar : Grammar :=
  ⟨.version :: Switch.shared, 0, helpWord :: commands.map Prod.fst⟩

/-- The command of a name with what has been found after it. -/
def commandOf? (name : String) (f : Found) : Option Command :=
  match name, f.operands with
  | "schemas", [] => some .schemas
  | "tables", [database] => some (.tables database)
  | "infer", [database, table] =>
    some (.infer database table ((f.value? .sampleSize).bind Text.size?))
  | "scan", [database, table] =>
    some (.scan database table ((f.value? .limit).bind Text.size?) (f.value? .filter))
  | _, _ => none

/-- The folder with the configuration file where none is named. -/
def defaultConfigFolder : String := "."

/-- The catalog where none is named. -/
def defaultCatalog : String := "default"

/-- The invocation that arguments stand for. -/
def ofArguments (arguments : List String) : Except Stop Invocation := do
  let (outer, rest) ← read outerGrammar none .empty arguments
  match rest with
  | [] => throw .usage
  | name :: rest =>
    match commands.lookup name with
    | none =>
      if rest.all fun word => (helpWord :: commands.map Prod.fst).contains word then throw .help
      else throw .usage
    | some (switches, operands) =>
      let (inner, _) ← read ⟨switches ++ Switch.shared, operands, []⟩ none .empty rest
      let value (s : Switch) : Option String := inner.value? s <|> outer.value? s
      match commandOf? name inner with
      | some command =>
        return ⟨(value .configFolder).getD defaultConfigFolder, value .root,
          (value .catalog).getD defaultCatalog, command⟩
      | none => throw .usage

end Invocation

end DocTables
