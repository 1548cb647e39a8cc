import TreeLint.Config.Merge
import TreeLint.Config.Settings
import TreeLint.Text.Piece

/-!
# Arguments

The arguments of the program: files, switches, and options with a value. A value stands behind an
equals sign or in the next argument, which then may not look like an option. Short names may be run
together. A switch and most options may be given once; lists of rules grow with every time.
-/

namespace TreeLint
namespace CommandLine

open Report

/-- What the arguments of the program say. -/
structure Arguments where
  files : List String
  config : Option String
  format : Option Output.Format
  jobs : Option Nat
  disable : Option (List String)
  enable : Option (List String)
  select : Option (List String)
  minSeverity : Option Severity
  explain : Option String
  verbose : Bool
  noColor : Bool
  pretty : Bool
  listRules : Bool
  timing : Bool
  exitZero : Bool
deriving DecidableEq, Repr

/-- No arguments. -/
def Arguments.none : Arguments :=
  ⟨[], .none, .none, .none, .none, .none, .none, .none, .none, false, false, false, false, false,
    false⟩

/-- Why the arguments are not those of a run. -/
inductive Stop where
  | misuse
  | help
  | version
deriving DecidableEq, Repr

/-- An option without a value. -/
inductive Switch where
  | verbose
  | noColor
  | pretty
  | listRules
  | timing
  | exitZero
  | help
  | version
deriving DecidableEq, Repr

/-- An option with a value. -/
inductive Field where
  | config
  | format
  | jobs
  | disable
  | enable
  | select
  | minSeverity
  | explain
deriving DecidableEq, Repr

/-- An option. -/
inductive OptionName where
  | switch (s : Switch)
  | field (f : Field)
deriving DecidableEq, Repr

/-- The options by their long names. -/
def longNames : List (String × OptionName) :=
  [("config", .field .config), ("format", .field .format), ("verbose", .switch .verbose),
    ("no-color", .switch .noColor), ("jobs", .field .jobs), ("disable", .field .disable),
    ("enable", .field .enable), ("select", .field .select),
    ("min-severity", .field .minSeverity), ("pretty", .switch .pretty),
    ("list-rules", .switch .listRules), ("explain", .field .explain),
    ("timing", .switch .timing), ("exit-zero", .switch .exitZero), ("help", .switch .help),
    ("version", .switch .version)]

/-- The options that have a short name. -/
def shortNames : List (Char × OptionName) :=
  [('c', .field .config), ('f', .field .format), ('v', .switch .verbose), ('j', .field .jobs),
    ('h', .switch .help), ('V', .switch .version)]

/-- A switch that is turned on for the first time. -/
def once (on : Bool) (a : Arguments) : Except Stop Arguments :=
  if on then .error .misuse else .ok a

namespace Arguments

/-- Turns a switch on. -/
def turnOn (a : Arguments) : Switch → Except Stop Arguments
  | .verbose => once a.verbose { a with verbose := true }
  | .noColor => once a.noColor { a with noColor := true }
  | .pretty => once a.pretty { a with pretty := true }
  | .listRules => once a.listRules { a with listRules := true }
  | .timing => once a.timing { a with timing := true }
  | .exitZero => once a.exitZero { a with exitZero := true }
  | .help => .error .help
  | .version => .error .version

/-- A value that is set for the first time, if it can be read. -/
def setOnce {α : Type} (old read : Option α) (set : α → Arguments) : Except Stop Arguments :=
  match old, read with
  | .none, some x => .ok (set x)
  | _, _ => .error .misuse

/-- The items between commas. -/
def items (value : String) : List String :=
  (Text.splitOn ',' value.toList).map String.ofList

/-- A list of rules with further ones. -/
def addItems (old : Option (List String)) (value : String) : Option (List String) :=
  some (old.getD [] ++ items value)

/-- Sets the value of an option. -/
def set (a : Arguments) (f : Field) (value : String) : Except Stop Arguments :=
  match f with
  | .config =>
    setOnce a.config (if value.isEmpty then .none else some value) fun x => { a with config := x }
  | .format => setOnce a.format (Output.Format.ofName? value) fun x => { a with format := x }
  | .jobs => setOnce a.jobs (Config.natural64? value.toList) fun x => { a with jobs := x }
  | .disable => .ok { a with disable := addItems a.disable value }
  | .enable => .ok { a with enable := addItems a.enable value }
  | .select => .ok { a with select := addItems a.select value }
  | .minSeverity =>
    setOnce a.minSeverity (Severity.ofName? value) fun x => { a with minSeverity := x }
  | .explain => setOnce a.explain (some value) fun x => { a with explain := x }

/-- Whether an argument looks like an option. A single dash does not. -/
def looksLikeOption (arg : String) : Bool :=
  match arg.toList with
  | '-' :: _ :: _ => true
  | _ => false

/-- A long option apart: its name, and the value behind an equals sign. -/
def splitLong (cs : List Char) : String × Option String :=
  let name := cs.takeWhile (· != '=')
  match cs.drop name.length with
  | _ :: value => (String.ofList name, some (String.ofList value))
  | [] => (String.ofList name, .none)

/-- Reads a long option. What is left to read is an option whose value is missing. -/
def readLong (a : Arguments) (cs : List Char) : Except Stop (Arguments × Option Field) :=
  let (name, value) := splitLong cs
  match longNames.lookup name, value with
  | some (.switch s), .none => (a.turnOn s).map fun b => (b, .none)
  | some (.field f), some v => (a.set f v).map fun b => (b, .none)
  | some (.field f), .none => .ok (a, some f)
  | _, _ => .error .misuse

/-- Reads short options that are run together. A value reaches to the end of the argument. -/
def readShort (a : Arguments) : List Char → Except Stop (Arguments × Option Field)
  | [] => .ok (a, .none)
  | c :: cs =>
    match shortNames.lookup c with
    | .none => .error .misuse
    | some (.switch s) =>
      match a.turnOn s with
      | .ok b => readShort b cs
      | .error e => .error e
    | some (.field f) =>
      match cs with
      | [] => .ok (a, some f)
      | '=' :: value => (a.set f (String.ofList value)).map fun b => (b, .none)
      | value => (a.set f (String.ofList value)).map fun b => (b, .none)

/-- Reads one argument other than the end of options. -/
def readOne (a : Arguments) (arg : String) : Except Stop (Arguments × Option Field) :=
  match arg.toList with
  | '-' :: '-' :: cs => a.readLong cs
  | '-' :: c :: cs => a.readShort (c :: cs)
  | _ => .ok ({ a with files := a.files ++ [arg] }, .none)

/-- Reads arguments behind those that were read already. Two dashes end the options. -/
def readAll (a : Arguments) : List String → Except Stop Arguments
  | [] => .ok a
  | arg :: rest =>
    if arg = "--" then .ok { a with files := a.files ++ rest }
    else
      match a.readOne arg with
      | .error e => .error e
      | .ok (b, .none) => readAll b rest
      | .ok (b, some f) =>
        match rest with
        | [] => .error .misuse
        | value :: more =>
          if looksLikeOption value then .error .misuse
          else
            match b.set f value with
            | .ok c => readAll c more
            | .error e => .error e

/-- Reads all arguments. -/
def read (args : List String) : Except Stop Arguments :=
  readAll Arguments.none args

/-- What the arguments say about the configuration. Without its switch, verbose output is off. -/
def overrides (a : Arguments) : Config.Overrides where
  format := a.format
  verbose := some a.verbose
  jobs := a.jobs
  disabled := a.disable
  enabled := a.enable
  only := a.select

end Arguments
end CommandLine
end TreeLint
