import TreeLint.CommandLine.Run

/-!
# The program

Takes the files below the current directory, those at the paths that the arguments name, and the
configuration files in the home directory as the tree of files, and runs the program in it.
-/

namespace TreeLint
namespace Main

/-- Files by the names on the way to them, with their texts. -/
abbrev Found := List (List String × String)

/-- The names that an absolute path consists of. -/
def namesOf (path : String) : List String :=
  (Path.components path).foldl
    (fun names c =>
      match c with
      | .root => []
      | .current => names
      | .parent => names.dropLast
      | .name s => names ++ [s])
    []

/-- How deep directories are searched. -/
def deepest : Nat := 64

/-- The files at an entry of a directory and below it. What cannot be read is left out. -/
def gather : Nat → IO.FS.DirEntry → IO Found
  | 0, _ => return []
  | depth + 1, entry => do
    try
      return [(namesOf entry.path.toString, ← IO.FS.readFile entry.path)]
    catch _ =>
      try
        return (← (← entry.path.readDir).toList.mapM (gather depth)).flatten
      catch _ =>
        return []

/-- The tree of files that the arguments may be about. -/
def fileTree (args : List String) : IO Path.FileTree := do
  let here ← IO.currentDir
  let home := (← IO.getEnv "HOME").filter fun h => !h.isEmpty
  let settings := home.toList.flatMap fun h => Config.defaultNames.map (Path.join h)
  let found ← (["."] ++ args ++ settings).mapM fun path => gather deepest ⟨here, path⟩
  return ⟨found.flatten, namesOf here.toString, home⟩

end Main
end TreeLint

/-- Runs the program with given arguments. -/
def main (args : List String) : IO UInt32 := do
  let files ← TreeLint.Main.fileTree args
  let terminal ← (← IO.getStdout).isTty
  let outcome := TreeLint.CommandLine.run files terminal args
  IO.print outcome.output
  IO.eprint outcome.errors
  return outcome.code.toUInt32
