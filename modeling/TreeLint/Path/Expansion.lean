import TreeLint.Path.FileTree
import TreeLint.Path.Wildcard

/-!
# Files that a pattern stands for

A pattern of paths is followed step by step through a tree of files. A step without wildcards goes
on to its name, two stars go on to all directories below, and any other step to the names that it
matches. Only two of the names that no directory lists can be matched: the directory itself and the
one above it, by a step that starts with a point.
-/

namespace TreeLint
namespace Path

/-- A step of a pattern: what stands between two separators. -/
inductive Step where
  | directories
  | name (parts : List NamePart)
deriving DecidableEq, Repr

/-- The step of a sequence of parts. -/
def Step.ofParts (ps : List NamePart) : Step :=
  if ps = [.anyDirectories] then .directories else .name ps

/-- The pieces of a pattern between separators; nothing counts behind the last separator. -/
def stepTexts (pattern : List Char) : List (List Char) :=
  match Text.splitOn separator pattern with
  | [[]] => [[]]
  | pieces => if pieces.getLast? = some [] then pieces.dropLast else pieces

/-- The steps of a pattern. -/
def steps (pattern : List Char) : Except WildcardError (List Step) :=
  (stepTexts pattern).mapM fun piece => (partsFrom 0 none piece).map Step.ofParts

/-- Goes on from a path by a name. The current directory is left out in front of a name. -/
def extend (path name : String) : String :=
  if components path = [.current] then name else join path name

/-- The path at the end of a way from a directory. -/
def extendAll (path : String) (way : List String) : String :=
  way.foldl extend path

namespace FileTree

variable (t : FileTree)

/-- The names that a step without wildcards, or a step that starts with a point, may go on to
although no directory lists them. -/
def unlisted (parts : List NamePart) : List String :=
  if parts.head? = some (.char '.') then
    [".", ".."].filter fun s => partsMatch parts s.toList
  else []

/-- Whether a step without wildcards goes on from a path. -/
def goesOn (path name : String) : Bool :=
  if name = "." || name = ".." then t.hasDirectory path else t.has (extend path name)

/-- The paths in a directory that match a step. -/
def matching (path : String) (parts : List NamePart) : List String :=
  ((t.childNames path).filter fun n => partsMatch parts n.toList).map (extend path)

/-- The paths that some steps lead to. A step behind two stars only goes on to names that are
listed. -/
def walk (listedOnly : Bool) : List Step → String → List String
  | [], path => [path]
  | .directories :: rest, path =>
    ((t.directoriesBelow path).map (extendAll path)).flatMap (walk true rest)
  | .name parts :: rest, path =>
    if listedOnly then (t.matching path parts).flatMap (walk false rest)
    else
      match plainName? parts with
      | some name => if t.goesOn path name then walk false rest (extend path name) else []
      | none =>
        ((t.matching path parts) ++ (unlisted parts).map (join path)).flatMap (walk false rest)

/-- The paths that a pattern stands for. Behind a separator at its end there are only
directories. -/
def expand (pattern : String) : Except WildcardError (List String) := do
  let _ ← parts pattern
  let start := if isAbsolute pattern then "/" else "."
  let steps ← steps (if isAbsolute pattern then pattern.toList.drop 1 else pattern.toList)
  let found := t.walk false steps start
  return if pattern.toList.getLast? = some separator then found.filter t.hasDirectory else found

end FileTree
end Path
end TreeLint
