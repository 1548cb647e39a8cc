import TreeLint.Config.Basic
import TreeLint.Glob.Match
import TreeLint.Path.Expansion

/-!
# Files to analyze

The files that the arguments of the program stand for. A directory stands for all files below it
that are included; a pattern for the files that it matches. Excluded files are left out of both. The
files stand in the order of their paths, each path once.
-/

namespace TreeLint
namespace CommandLine

/-- Why the files cannot be found. -/
inductive FilesError where
  | included (pattern : String) (cause : Glob.PatternError)
  | excluded (pattern : String) (cause : Glob.PatternError)
  | argument (pattern : String) (cause : Path.WildcardError)
deriving DecidableEq, Repr

/-- The text of a mistake in a glob pattern. -/
def globMessage (pattern : String) (cause : Glob.PatternError) : String :=
  "error parsing glob '" ++ pattern ++ "': " ++ cause.message

/-- The text of an error. -/
def FilesError.message : FilesError → String
  | included p cause => "Invalid include pattern: " ++ globMessage p cause
  | excluded p cause => "Invalid exclude pattern: " ++ globMessage p cause
  | argument p cause => "Invalid pattern '" ++ p ++ "': " ++ cause.message

/-- Checks glob patterns; the first mistake counts. -/
def checkGlobs (report : String → Glob.PatternError → FilesError) :
    List String → Except FilesError Unit
  | [] => .ok ()
  | p :: ps =>
    match Glob.parse p with
    | .error cause => .error (report p cause)
    | .ok _ => checkGlobs report ps

/-- Whether one of some patterns matches a path. -/
def anyMatch (patterns : List String) (path : String) : Bool :=
  patterns.any fun p => Glob.isMatch p path

/-- The pattern for everything below a directory. -/
def belowPattern (directory : String) : String :=
  String.ofList (Text.dropEndWhile (fun c => c = '/' || c = '\\') directory.toList) ++ "/**/*"

/-- The files that an argument stands for. -/
def filesOf (files : Path.FileTree) (o : Config.FileOptions) (arg : String) :
    Except FilesError (List String) :=
  let isDirectory := files.hasDirectory arg
  let pattern := if isDirectory then belowPattern arg else arg
  match files.expand pattern with
  | .error cause => .error (.argument arg cause)
  | .ok paths =>
    .ok <| paths.filter fun p =>
      files.hasFile p && !anyMatch o.excluded p && (!isDirectory || anyMatch o.included p)

/-- Leaves out every path that is the same as the one before it. -/
def dedup : List String → List String
  | [] => []
  | [p] => [p]
  | p :: q :: rest =>
    if Path.same p q then dedup (p :: rest) else p :: dedup (q :: rest)
termination_by ps => ps.length

/-- The files that the arguments stand for. -/
def collectFiles (files : Path.FileTree) (o : Config.FileOptions) (args : List String) :
    Except FilesError (List String) := do
  checkGlobs .included o.included
  checkGlobs .excluded o.excluded
  let found ← args.mapM (filesOf files o)
  return dedup (found.flatten.mergeSort fun p q => (Path.cmp p q).isLE)

end CommandLine
end TreeLint
