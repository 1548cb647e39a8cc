import TreeLint.Config.Document
import TreeLint.Config.Merge
import TreeLint.Config.Settings
import TreeLint.Path.FileTree

/-!
# Loading configurations

A configuration file may build on presets and on other files. What it builds on is put together from
left to right on top of the standard configuration, and the file itself on top of that. Files may
build on each other up to a fixed depth. The parameters of the whole are checked at the end.
-/

namespace TreeLint
namespace Config

/-- How many files may build on each other. -/
def deepestBase : Nat := 10

/-- What an entry in the list of bases stands for. -/
inductive Base where
  | preset (c : Config)
  | file (path : String)
  | unknown (name : String)

/-- What an entry stands for in a file: a preset has no extension, and a file is looked for beside
the file with the entry. -/
def Base.of (file entry : String) : Base :=
  match preset? entry with
  | some c => .preset c
  | none =>
    if (Path.extension? entry).isNone then .unknown entry else .file (Path.beside file entry)

/-- Puts bases on top of a configuration, from left to right. -/
def stack (load : String → Except ConfigError Config) (file : String) :
    Config → List String → Except ConfigError Config
  | c, [] => .ok c
  | c, entry :: rest => do
    let base ←
      match Base.of file entry with
      | .preset p => .ok p
      | .file path => load path
      | .unknown name => .error (.unknownPreset name)
    stack load file (c.merge base) rest

/-- A file with what it builds on, where `read` reads one file and `depth` more files may build on
each other. -/
def layered (read : String → Except ConfigError Config) :
    Nat → String → Except ConfigError Config
  | 0, _ => .error .tooDeep
  | depth + 1, path => do
    let own ← read path
    if own.bases.isEmpty then
      return own
    else
      return (← stack (layered read depth) path standard own.bases).merge own

/-- What loading leaves to others: how texts are read, one function for each form, and which
patterns of words are refused. -/
structure Loader where
  yaml? : String → Option Config
  json? : String → Option Config
  refusal : Refusal

namespace Loader

/-- The configuration in a text; the extension of its file tells the form. -/
def decode (loader : Loader) (extension text : String) : Except ConfigError Config :=
  if extension = "yaml" || extension = "yml" then
    match loader.yaml? text with
    | some c => .ok c
    | none => .error .malformedYaml
  else if extension = "json" then
    match loader.json? text with
    | some c => .ok c
    | none => .error .malformedJson
  else .error (.unknownFormat extension)

/-- The configuration in one file. -/
def readFile (loader : Loader) (files : Path.FileTree) (path : String) :
    Except ConfigError Config :=
  match files.read? path with
  | none => .error .unreadable
  | some text => loader.decode ((Path.extension? path).getD "") text

/-- The configuration of a file with what it builds on, with valid parameters. -/
def load (loader : Loader) (files : Path.FileTree) (path : String) : Except ConfigError Config := do
  let c ← layered (loader.readFile files) deepestBase path
  let _ ← c.settingsUnder loader.refusal
  return c

/-- The readers of this library, with any words. -/
def standard : Loader :=
  ⟨ofYamlText?, ofJsonText?, .never⟩

end Loader

/-- The configuration in one file, by the standard readers. -/
def readFile (files : Path.FileTree) (path : String) : Except ConfigError Config :=
  Loader.standard.readFile files path

/-- The configuration of a file with what it builds on, by the standard readers. -/
def load (files : Path.FileTree) (path : String) : Except ConfigError Config :=
  Loader.standard.load files path

/-- The names that a configuration file may have when none is given, in the order in which they are
looked for. -/
def defaultNames : List String :=
  [".netlintrc.yaml", ".netlintrc.yml", ".netlintrc.json", "netlint.yaml", "netlint.json"]

/-- The configuration file that is used when none is given: in the current directory or else in the
home directory. -/
def defaultFile? (files : Path.FileTree) : Option String :=
  let inHome := (files.home.toList).flatMap fun home => defaultNames.map (Path.join home)
  (defaultNames ++ inHome).find? files.has

/-- The configuration that is used when no file is given. -/
def loadDefault (files : Path.FileTree) : Except ConfigError Config :=
  match defaultFile? files with
  | some path => load files path
  | none => .ok standard

end Config
end TreeLint
