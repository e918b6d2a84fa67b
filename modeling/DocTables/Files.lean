/-
# Files and folders

A snapshot of a file system: folders with named entries, and files with bytes.  A path is looked up
name by name; a dot stands for the folder itself, two dots for the folder around it, and a path that
does not start with a slash starts from the working folder.
-/

namespace DocTables

/-- A file or a folder. -/
inductive FileTree where
  | file (bytes : List UInt8)
  | folder (entries : List (String × FileTree))

instance : Inhabited FileTree := ⟨.folder []⟩

/-- A snapshot of a file system. -/
structure Files where
  root : FileTree
  /-- The names that lead from the root to the working folder. -/
  workingFolder : List String

/-! ## 1. Paths -/

namespace Path

/-- The path of a name in a folder.  An absolute name stands for itself. -/
def join (folder name : String) : String :=
  if name.toList.head? == some '/' then name
  else if folder.toList.getLast?.all (· == '/') then folder ++ name
  else folder ++ "/" ++ name

/-- The parts of a path between slashes. -/
def parts : List Char → List (List Char)
  | [] => [[]]
  | c :: rest =>
    if c == '/' then [] :: parts rest
    else
      match parts rest with
      | first :: others => (c :: first) :: others
      | [] => [[c]]

/-- The name of a file without its extension, and the extension: what follows the last dot, unless
only the dot that the name starts with. -/
def splitExtension (name : String) : String × Option String :=
  let reversed := name.toList.reverse
  match reversed.dropWhile (· != '.') with
  | [] => (name, none)
  | [_] => (name, none)
  | _ :: stem =>
    if name == ".." then (name, none)
    else (String.ofList stem.reverse, some (String.ofList (reversed.takeWhile (· != '.')).reverse))

end Path

/-! ## 2. Looking up -/

namespace FileTree

/-- Follow names from the folder at the front of a list, which goes on with the folders around it
and their names.  -/
def follow (name : String) (tree : FileTree) (around : List (String × FileTree)) :
    List (List Char) → Option (List (String × FileTree))
  | [] => some ((name, tree) :: around)
  | part :: rest =>
    match tree with
    | .file _ => none
    | .folder entries =>
      if part.isEmpty || part == ['.'] then follow name tree around rest
      else if part == ['.', '.'] then
        match around with
        | [] => follow name tree around rest
        | (outerName, outer) :: around => follow outerName outer around rest
      else
        let part := String.ofList part
        match entries.lookup part with
        | some inner => follow part inner ((name, tree) :: around) rest
        | none => none

/-- A file or a folder in the place of another.  A folder keeps the entries of the folder in its
place whose names it does not have.  -/
def replacing : FileTree → FileTree → FileTree
  | .folder entries, .folder old =>
    .folder (entries ++ old.filter fun e => (entries.lookup e.1).isNone)
  | tree, _ => tree

/-- Put a file or a folder where names lead to; folders on the way are made if need be. -/
def graft (content : FileTree) : List String → FileTree → FileTree
  | [], old => content.replacing old
  | part :: rest, .file _ => .folder [(part, graft content rest (.folder []))]
  | part :: rest, .folder entries =>
    match entries.lookup part with
    | some inner =>
      let inner := graft content rest inner
      .folder (entries.map fun e => if e.1 == part then (part, inner) else e)
    | none => .folder (entries ++ [(part, graft content rest (.folder []))])

/-- Put a file into the folder that names lead to, in the place of a file of its name. -/
def write? (name : String) (bytes : List UInt8) : List String → FileTree → Option FileTree
  | [], .folder entries =>
    match entries.lookup name with
    | some (.folder _) => none
    | _ => some (.folder ((name, .file bytes) :: entries.filter (·.1 != name)))
  | part :: rest, .folder entries => do
    let inner ← (← entries.lookup part).write? name bytes rest
    return .folder (entries.map fun e => if e.1 == part then (part, inner) else e)
  | _, .file _ => none

end FileTree

namespace Files

/-- What a path leads to, with its name and all that is around it. -/
def locate? (f : Files) (path : String) : Option (List (String × FileTree)) :=
  let cs := path.toList
  if cs.isEmpty || cs.contains '\x00' then none
  else if cs.head? == some '/' then f.root.follow "" [] (Path.parts cs)
  else f.root.follow "" [] (f.workingFolder.map String.toList ++ Path.parts cs)

/-- What a path leads to. -/
def get? (f : Files) (path : String) : Option FileTree := do (← f.locate? path).head?.map Prod.snd

/-- Whether a path leads to anything. -/
def exists? (f : Files) (path : String) : Bool := (f.get? path).isSome

/-- Whether a path leads to a folder. -/
def isFolder (f : Files) (path : String) : Bool :=
  match f.get? path with
  | some (.folder _) => true
  | _ => false

/-- The bytes of the file that a path leads to. -/
def read? (f : Files) (path : String) : Option (List UInt8) :=
  match f.get? path with
  | some (.file bytes) => some bytes
  | _ => none

/-- The entries of the folder that a path leads to, in the order of their names. -/
def entries (f : Files) (path : String) : List (String × FileTree) :=
  match f.get? path with
  | some (.folder entries) => entries.mergeSort fun a b => a.1 ≤ b.1
  | _ => []

/-- The snapshot after a file has been written into the folder that a path leads to. -/
def write? (f : Files) (folder name : String) (bytes : List UInt8) : Option Files := do
  let names := ((← f.locate? folder).map Prod.fst).reverse.drop 1
  return { f with root := ← f.root.write? name bytes names }

end Files

end DocTables
