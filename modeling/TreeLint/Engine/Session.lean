import TreeLint.Engine

/-!
# Sessions with an engine

A host keeps an engine and sends it commands: it replaces the credential words, has units analyzed,
and cancels and resets. What the commands have said before can be read off them: the last list of
words that was accepted, and whether the engine was cancelled since the last reset.
-/

namespace TreeLint

open Report Rule Source

namespace Config

/-- The configuration in which a list of credential words replaces those that are given. -/
def withWords (c : Config) : Option String → Config
  | none => c
  | some list => { c with parameters := c.parameters.insert wordsKey (.text list) }

end Config

namespace Engine

/-- The engine of a configuration whose parameters are read in some order, where the patterns of
some words may be refused. -/
def ofVisit (refusal : Config.Refusal) (matching : String → String → Bool) (c : Config)
    (visits : List (String × Config.Setting)) : Except Config.ConfigError Engine :=
  (Config.readParameters refusal visits).map fun s => ⟨c, s, matching, false⟩

/-- Replaces the credential words by those of a list, if these are accepted. -/
def replaceWords (refusal : Config.Refusal) (e : Engine) (list : String) :
    Except Config.ConfigError Engine :=
  (Config.parseWords refusal list).map fun words =>
    { e with settings := { e.settings with words := words } }

inductive Command where
  | setWords (list : String)
  | analyze (us : List SourceUnit)
  | analyzeUnit (u : SourceUnit)
  | cancel
  | reset

inductive Reply where
  | done
  | refused (cause : Config.ConfigError)
  | found (s : Summary)

/-- The engine after a command, and its reply. -/
def answer (refusal : Config.Refusal) (e : Engine) : Command → Engine × Reply
  | .setWords list =>
    match e.replaceWords refusal list with
    | .ok next => (next, .done)
    | .error cause => (e, .refused cause)
  | .analyze us => (e, .found (e.analyze us))
  | .analyzeUnit u => (e, .found (e.analyzeUnit u))
  | .cancel => (e.cancel, .done)
  | .reset => (e.resume, .done)

/-- The engine after commands. -/
def after (refusal : Config.Refusal) (e : Engine) (commands : List Command) : Engine :=
  commands.foldl (fun e command => (e.answer refusal command).1) e

/-- The replies to commands. -/
def replies (refusal : Config.Refusal) (e : Engine) : List Command → List Reply
  | [] => []
  | command :: rest =>
    (e.answer refusal command).2 :: replies refusal (e.answer refusal command).1 rest

/-! ## What commands say by themselves -/

namespace Command

/-- The last list of words that was accepted, after one more command. -/
def lastWords? (refusal : Config.Refusal) (last : Option String) : Command → Option String
  | .setWords list =>
    match Config.parseWords refusal list with
    | .ok _ => some list
    | .error _ => last
  | _ => last

/-- Whether the flag is set after one more command. -/
def flag (before : Bool) : Command → Bool
  | .cancel => true
  | .reset => false
  | _ => before

end Command

def lastWords? (refusal : Config.Refusal) (commands : List Command) : Option String :=
  commands.foldl (Command.lastWords? refusal) none

def flagAfter (commands : List Command) : Bool :=
  commands.foldl Command.flag false

end Engine
end TreeLint
