import TreeLint.Text.Blank
import TreeLint.Text.Piece

/-!
# Paths

A path is kept as it was written. It is compared by its components: separators may be repeated,
and a `.` counts only at the start of a relative path, so `a/./b` and `a//b` are the same path and
`a/b` comes before `a-b`.
-/

namespace TreeLint
namespace Path

open Text

/-- A component of a path, in the order in which components are sorted. -/
inductive Component where
  | root
  | current
  | parent
  | name (s : String)
deriving DecidableEq, Repr

namespace Component

/-- The rank of the form of a component. -/
def rank : Component → Nat
  | root => 0
  | current => 1
  | parent => 2
  | name _ => 3

/-- The order of components: by form, and names by their text. -/
def cmp (a b : Component) : Ordering :=
  match a, b with
  | name s, name t => compare s t
  | a, b => compare a.rank b.rank

/-- The component that a piece between separators stands for, apart from `.` and empty pieces. -/
def ofPiece (piece : List Char) : Component :=
  if piece = ['.', '.'] then parent else name (String.ofList piece)

end Component

/-- The character between the components of a path. -/
def separator : Char := '/'

/-- Whether a piece between separators stands for nothing. -/
def isIdle (piece : List Char) : Bool :=
  piece = [] || piece = ['.']

/-- The pieces of a path that stand for components. -/
def activePieces (pieces : List (List Char)) : List Component :=
  (pieces.filter fun p => !isIdle p).map Component.ofPiece

/-- The components of a path. -/
def components (path : String) : List Component :=
  match splitOn separator path.toList with
  | [] => []
  | [[]] => []
  | [] :: pieces => .root :: activePieces pieces
  | ['.'] :: pieces => .current :: activePieces pieces
  | pieces => activePieces pieces

/-- The lexicographic order of sequences of components. -/
def cmpComponents : List Component → List Component → Ordering
  | [], [] => .eq
  | [], _ :: _ => .lt
  | _ :: _, [] => .gt
  | a :: as, b :: bs =>
    match a.cmp b with
    | .eq => cmpComponents as bs
    | o => o

/-- The order of paths. -/
def cmp (a b : String) : Ordering :=
  cmpComponents (components a) (components b)

/-- Whether two paths are the same. -/
def same (a b : String) : Bool :=
  cmp a b == .eq

/-- Whether a path starts at the root. -/
def isAbsolute (path : String) : Bool :=
  path.toList.head? == some separator

/-- Whether a path can only be that of a directory, because nothing stands behind its last
separator. -/
def asksForDirectory (path : String) : Bool :=
  let pieces := splitOn separator path.toList
  1 < pieces.length && pieces.getLast?.any isIdle

/-- A path below a directory. -/
def join (directory path : String) : String :=
  if directory.toList.getLast? = some separator then directory ++ path
  else directory ++ "/" ++ path

/-- The file that a path means when it stands in another file. -/
def beside (file path : String) : String :=
  if isAbsolute path then path
  else String.ofList (dropEndWhile (· != separator) file.toList) ++ path

/-- The name at the end of a path. -/
def fileName? (path : String) : Option String :=
  match (components path).getLast? with
  | some (.name s) => some s
  | _ => none

/-- What stands behind the last point of the name of a file. A point at the start does not count. -/
def extension? (path : String) : Option String := do
  let name ← fileName? path
  let stem := dropEndWhile (· != '.') name.toList
  if stem.length ≤ 1 then none else some (String.ofList (name.toList.drop stem.length))

end Path
end TreeLint
