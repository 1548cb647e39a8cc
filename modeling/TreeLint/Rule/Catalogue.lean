import TreeLint.Rule.HardcodedCredentials
import TreeLint.Rule.LoopCounter
import TreeLint.Rule.GenericParameters
import TreeLint.Rule.EmptyMethod
import TreeLint.Rule.SystemClock

/-!
# The catalogue of rules

All rules in the order in which they are listed, their settings, and the registry of each language.
-/

namespace TreeLint
namespace Rule

open Source

/-- The descriptors of all rules. -/
def catalogue : List Descriptor :=
  [HardcodedCredentials.descriptor, LoopCounter.descriptor, GenericParameters.descriptor,
    EmptyMethod.descriptor, SystemClock.descriptor]

/-- The descriptor of a rule, regardless of the case of its id. -/
def find? (id : String) : Option Descriptor :=
  catalogue.find? fun d => Text.sameAsciiString d.id id

/-- The settings of the rules. -/
structure Settings where
  words : Credential.WordSet
  maxInClass : Nat
  maxInMethod : Nat
deriving DecidableEq, Repr

/-- The settings used when nothing is configured. -/
def Settings.standard : Settings :=
  ⟨Credential.WordSet.standard, GenericParameters.defaultMaxInClass,
    GenericParameters.defaultMaxInMethod⟩

/-- The grammar of a language. -/
def grammarOf : Language → Grammar
  | .csharp => Grammar.csharp
  | .visualBasic => Grammar.visualBasic

/-- The rules of a language with what they ask for, in order. -/
def rulesOf (s : Settings) : Language → List (Descriptor × List Request)
  | .csharp =>
    [(HardcodedCredentials.descriptor, HardcodedCredentials.requests s.words Grammar.csharp),
      (LoopCounter.descriptor, LoopCounter.requests),
      (GenericParameters.descriptor, GenericParameters.requests s.maxInClass s.maxInMethod),
      (EmptyMethod.descriptor, EmptyMethod.requests),
      (SystemClock.descriptor, SystemClock.requests Grammar.csharp)]
  | .visualBasic =>
    [(HardcodedCredentials.descriptor, HardcodedCredentials.requests s.words Grammar.visualBasic),
      (SystemClock.descriptor, SystemClock.requests Grammar.visualBasic)]

/-- Adds a rule to a registry. -/
def Registry.addRule (r : Registry) (rule : Descriptor × List Request) : Registry :=
  rule.2.foldl Registry.request (r.addDescriptor rule.1)

/-- The registry of a language under given settings. -/
def registryOf (s : Settings) (l : Language) : Registry :=
  (rulesOf s l).foldl Registry.addRule (Registry.empty (grammarOf l))

/-- The descriptors of the rules of all languages, each once. -/
def registeredDescriptors (s : Settings) : List Descriptor :=
  ((registryOf s .visualBasic).descriptors.foldl Registry.addDescriptor
    (registryOf s .csharp)).descriptors

end Rule
end TreeLint
