/-
# The program

Reads the arguments, the five environment variables of the configuration, and the files that the
command needs: the configuration file and the folder of the store with the folders in it.  Then it
runs the command on what it has read, prints and ends.
-/
import DocTables.CommandLine

open DocTables

namespace DocTables.Main

/-- The names that lead from the root of the file system to a path. -/
def namesOf (workingFolder : List String) (path : String) : List String :=
  let parts := (Path.parts path.toList).map String.ofList
  let start := if path.toList.head? == some '/' then [] else workingFolder
  parts.foldl (fun names part =>
    if part == "" || part == "." then names
    else if part == ".." then names.dropLast
    else names ++ [part]) start

/-- The absolute path of names. -/
def pathOf (names : List String) : String := "/" ++ "/".intercalate names

/-- What is at a path, given how the entries of a folder are found; nothing if it cannot be read. -/
def look? (entries : String → IO (List (String × FileTree))) (path : String) :
    IO (Option FileTree) := do
  let entry : IO.FS.DirEntry := ⟨path, ""⟩
  if ← entry.root.isDir then return some (.folder (← entries path))
  else if ← entry.root.pathExists then
    try return some (.file (← IO.FS.readBinFile path).data.toList)
    catch _ => return none
  else return none

/-- The entries of the folder at a path, given how each of them is found. -/
def entriesAt (look : String → IO (Option FileTree)) (path : String) :
    IO (List (String × FileTree)) := do
  let entry : IO.FS.DirEntry := ⟨path, ""⟩
  let found ← (← entry.root.readDir).toList.mapM fun e => do
    return (← look (path ++ "/" ++ e.fileName)).map (e.fileName, ·)
  return found.filterMap id

/-- What is at a path, with as many levels of folders as asked for. -/
def snapshot? : Nat → String → IO (Option FileTree)
  | 0 => look? fun _ => pure []
  | depth + 1 => look? (entriesAt (snapshot? depth))

/-- Add what is at a path to the files. -/
def addSnapshot (files : Files) (path : String) (depth : Nat) : IO Files := do
  let names := namesOf files.workingFolder path
  match ← snapshot? depth (pathOf names) with
  | some tree => return { files with root := FileTree.graft tree names files.root }
  | none => return files

/-- Add the configuration file of an invocation and its folder to the files. -/
def addConfig (files : Files) (i : Invocation) : IO Files := do
  let files ← addSnapshot files i.configFolder 0
  addSnapshot files (Path.join i.configFolder Config.fileName) 0

/-- The files that an invocation needs: its configuration and, if that gives one, the store. -/
def filesFor (files : Files) (environment : List (String × String)) (i : Invocation) :
    IO Files := do
  let configured ← addConfig files i
  match (Config.load configured environment i.configFolder).mapError CommandError.config >>=
      CommandLine.connection i with
  | .ok connection => addConfig (← addSnapshot files (JsonLinesStore.pathOf connection) 2) i
  | .error _ => return configured

/-- Print what a command leaves behind. -/
def printOutcome (o : Outcome) : IO UInt32 := do
  o.output.forM IO.println
  o.notes.forM IO.eprintln
  return UInt32.ofNat o.code

end DocTables.Main

/-- Run the program. -/
def main (arguments : List String) : IO UInt32 := do
  let environment ← Config.variableNames.filterMapM fun name => do
    return (← IO.getEnv name).map (name, ·)
  let workingFolder := Main.namesOf [] (← IO.currentDir).toString
  let files : Files := ⟨FileTree.graft (.folder []) workingFolder (.folder []), workingFolder⟩
  let files ← match Invocation.ofArguments arguments with
    | .ok i => Main.filesFor files environment i
    | .error _ => pure files
  Main.printOutcome (CommandLine.run files environment arguments)
