import TreeLint.Path.Component

/-!
# Trees of files

A tree holds the texts of files by the names that lead to them from its root. Directories are there
because files are in them. A path is followed from the current directory or the root; every step
but the last has to end at a directory.
-/

namespace TreeLint
namespace Path

/-- The files that can be reached. -/
structure FileTree where
  /-- The names on the way to each file, and its text. -/
  files : List (List String × String)
  /-- The directory in which paths start that are not absolute. -/
  current : List String
  /-- The path of the home directory. -/
  home : Option String

namespace FileTree

/-- The text of the file at the end of some names. -/
def text? (t : FileTree) (names : List String) : Option String :=
  t.files.lookup names

/-- Whether there is a directory at the end of some names. -/
def isDirectory (t : FileTree) (names : List String) : Bool :=
  names.isPrefixOf t.current || t.files.any fun f => names.isPrefixOf f.1 && names != f.1

/-- Goes one step from a directory. -/
def step? (t : FileTree) (names : List String) (c : Component) : Option (List String) :=
  if t.isDirectory names then
    match c with
    | .root => some []
    | .current => some names
    | .parent => some names.dropLast
    | .name s => some (names ++ [s])
  else none

/-- The names that a path leads to. -/
def follow? (t : FileTree) (path : String) : Option (List String) := do
  if path.isEmpty then
    none
  let names ← (components path).foldlM t.step? t.current
  if asksForDirectory path && !t.isDirectory names then none else some names

/-- The text of the file at a path. -/
def read? (t : FileTree) (path : String) : Option String :=
  (t.follow? path).bind t.text?

/-- Whether there is a file at a path. -/
def hasFile (t : FileTree) (path : String) : Bool :=
  (t.read? path).isSome

/-- Whether there is a directory at a path. -/
def hasDirectory (t : FileTree) (path : String) : Bool :=
  (t.follow? path).any t.isDirectory

/-- Whether there is a file or directory at a path. -/
def has (t : FileTree) (path : String) : Bool :=
  t.hasFile path || t.hasDirectory path

/-- The names that lead on from a directory to each file below it. -/
def waysDown (t : FileTree) (names : List String) : List (List String) :=
  (t.files.filter fun f => names.isPrefixOf f.1 && names != f.1).map fun f =>
    f.1.drop names.length

/-- The names in a directory. -/
def childNames (t : FileTree) (path : String) : List String :=
  match t.follow? path with
  | none => []
  | some names => ((t.waysDown names).filterMap List.head?).eraseDups

/-- The ways that a way starts with. -/
def startsOf : List String → List (List String)
  | [] => [[]]
  | n :: ns => [] :: (startsOf ns).map (n :: ·)

/-- The ways from a directory to itself and to each directory below it. -/
def directoriesBelow (t : FileTree) (path : String) : List (List String) :=
  match t.follow? path with
  | none => []
  | some names => ((t.waysDown names).flatMap fun way => startsOf way.dropLast).eraseDups

end FileTree
end Path
end TreeLint
