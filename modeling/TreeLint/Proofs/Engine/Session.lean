import Mathlib.Algebra.GroupWithZero.Nat
import TreeLint.Engine.Session
import TreeLint.Proofs.Config.Words
import TreeLint.Proofs.Engine.Watching
import TreeLint.Proofs.Rule.Scan

/-!
# Engines keep nothing but their words and their flag

Whatever an engine was told before, it has the settings of its configuration with the words of the
last list that it accepted, and its flag. So an analysis under a clear flag finds what a new engine
finds, and one under a set flag finds nothing and changes nothing.

**Results.**
* `Engine.reflects_after`: what an engine is after a sequence of commands.
* `Engine.registered_once`: its actions can be registered before all commands.
* `Engine.session_eq_fresh`: analyses between commands.
-/

namespace TreeLint

open Report Rule Source

namespace Engine

variable {refusal : Config.Refusal} {matching : String → String → Bool} {c : Config} {e : Engine}
  {visits : List (String × Config.Setting)}

theorem ofVisit_eq_ok_iff :
    ofVisit refusal matching c visits = .ok e ↔
      ∃ s, Config.readParameters refusal visits = .ok s ∧ e = ⟨c, s, matching, false⟩ := by
  rw [ofVisit]
  cases Config.readParameters refusal visits with
  | error cause => simp [Except.map]
  | ok s => simp [Except.map, eq_comm]

/-! ## Engines after commands -/

/-- An engine has settings with the words that were accepted last, and the flag as it was set
last. -/
structure Reflects (refusal : Config.Refusal) (matching : String → String → Bool) (c : Config)
    (s : Settings) (last : Option String) (flag : Bool) (e : Engine) : Prop where
  config : e.config = c
  settings : Config.HasWords refusal s last e.settings
  matching : e.matching = matching
  cancelled : e.cancelled = flag

section Commands

variable {s : Settings} {last : Option String} {flag : Bool}

theorem reflects_answer (h : Reflects refusal matching c s last flag e) (command : Command) :
    Reflects refusal matching c s (command.lastWords? refusal last) (command.flag flag)
      (e.answer refusal command).1 := by
  cases command with
  | setWords list =>
      cases hwords : Config.parseWords refusal list with
      | ok words =>
          simp only [answer, replaceWords, Command.lastWords?, hwords]
          exact ⟨h.config, h.settings.replace hwords, h.matching, h.cancelled⟩
      | error cause =>
          simp only [answer, replaceWords, Command.lastWords?, hwords]
          exact h
  | analyze us => exact h
  | analyzeUnit u => exact h
  | cancel => exact ⟨h.config, h.settings, h.matching, rfl⟩
  | reset => exact ⟨h.config, h.settings, h.matching, rfl⟩

theorem reflects_foldl (commands : List Command) (h : Reflects refusal matching c s last flag e) :
    Reflects refusal matching c s (commands.foldl (Command.lastWords? refusal) last)
      (commands.foldl Command.flag flag) (e.after refusal commands) := by
  induction commands generalizing last flag e with
  | nil => exact h
  | cons command commands ih => exact ih (reflects_answer h command)

end Commands

/-- After commands an engine is as the commands say. -/
theorem reflects_after (h : ofVisit refusal matching c visits = .ok e) (commands : List Command) :
    ∃ s, Config.readParameters refusal visits = .ok s ∧
      Reflects refusal matching c s (lastWords? refusal commands) (flagAfter commands)
        (e.after refusal commands) := by
  obtain ⟨s, hs, rfl⟩ := ofVisit_eq_ok_iff.mp h
  exact ⟨s, hs, reflects_foldl commands ⟨rfl, .unchanged, rfl, rfl⟩⟩

/-! ## Actions that read the words -/

/-- Kinds, and an action that is given the words when it runs. -/
abbrev LateRequest := Grammar.KindSet × (Credential.WordSet → Action)

/-- An action that takes no notice of the words. -/
def lateOf (q : Request) : LateRequest :=
  (q.kinds, fun _ => q.action)

/-- The requests about credentials: the first three track uses, the last one looks for words. -/
def lateCredentials (s : Settings) (g : Grammar) : List LateRequest :=
  ((HardcodedCredentials.requests s.words g).take 3).map lateOf ++
    [(HardcodedCredentials.candidates g.language, HardcodedCredentials.wordAction)]

/-- What the rules of a language ask for before the words are known. -/
def lateRequests (s : Settings) : Language → List LateRequest
  | .csharp =>
    lateCredentials s Grammar.csharp ++
      (LoopCounter.requests ++ GenericParameters.requests s.maxInClass s.maxInMethod ++
        EmptyMethod.requests ++ SystemClock.requests Grammar.csharp).map lateOf
  | .visualBasic =>
    lateCredentials s Grammar.visualBasic ++ (SystemClock.requests Grammar.visualBasic).map lateOf

theorem flatMap_rulesOf (s : Settings) (words : Credential.WordSet) (l : Language) :
    (rulesOf { s with words := words } l).flatMap Prod.snd =
      (lateRequests s l).map fun q => ⟨q.1, q.2 words⟩ := by
  cases l with
  | csharp => rfl
  | visualBasic => rfl

theorem settings_answer (refusal : Config.Refusal) (e : Engine) (command : Command) :
    ∃ words, (e.answer refusal command).1.settings = { e.settings with words := words } := by
  cases command with
  | setWords list =>
      cases hwords : Config.parseWords refusal list with
      | ok words =>
          simp only [answer, replaceWords, hwords]
          exact ⟨words, rfl⟩
      | error cause =>
          simp only [answer, replaceWords, hwords]
          exact ⟨e.settings.words, rfl⟩
  | _ => exact ⟨e.settings.words, rfl⟩

theorem settings_after (refusal : Config.Refusal) (e : Engine) (commands : List Command) :
    ∃ words, (e.after refusal commands).settings = { e.settings with words := words } := by
  induction commands generalizing e with
  | nil => exact ⟨e.settings.words, rfl⟩
  | cons command commands ih =>
      obtain ⟨words, hwords⟩ := ih (e.answer refusal command).1
      obtain ⟨next, hnext⟩ := settings_answer refusal e command
      exact ⟨words, hwords.trans (by rw [hnext])⟩

/-- The actions of an engine can be registered once, before all commands. Those that look for words
are given the words of the moment. -/
theorem registered_once (refusal : Config.Refusal) (e : Engine) (l : Language) :
    ∃ standing : String → List (Credential.WordSet → Action), ∀ commands kind,
      let now := (e.after refusal commands).settings
      (registryOf now l).actionsFor kind = (standing kind).map fun action => action now.words := by
  refine ⟨fun kind => if (grammarOf l).knows kind then
    (lateRequests e.settings l).flatMap fun q => List.replicate (q.1.count kind) q.2 else [], ?_⟩
  intro commands kind now
  obtain ⟨words, hwords⟩ := settings_after refusal e commands
  have hnow : now = { e.settings with words := words } := hwords
  rw [hnow, (Registry.answers_registryOf _ l).actions, flatMap_rulesOf, askedFor]
  by_cases hkind : (grammarOf l).knows kind = true
  · simp only [hkind, if_true, List.flatMap_map, List.map_flatMap, List.map_replicate]
  · simp only [hkind, Bool.false_eq_true, if_false, List.map_nil]

/-! ## Analyses -/

/-- The parameters of a configuration count by the settings only. -/
theorem analyzeUnit_withWords (c : Config) (last : Option String) (s : Settings)
    (matching : String → String → Bool) (flag : Bool) (u : SourceUnit) :
    analyzeUnit ⟨c.withWords last, s, matching, flag⟩ u = analyzeUnit ⟨c, s, matching, flag⟩ u := by
  cases last with
  | none => rfl
  | some list => rfl

theorem stopped_of_cancelled (h : e.cancelled = true) (u : SourceUnit) :
    e.analyzeUnit u = Summary.stopped := by
  simp [analyzeUnit, watchUnit, h, Watch.steady_zero]

/-- The summary of units none of which was looked at. -/
theorem ofFiles_stopped {summaries : List Summary} (hne : summaries ≠ [])
    (h : ∀ s ∈ summaries, s = Summary.stopped) : Summary.ofFiles summaries = Summary.stopped := by
  have hmerged : ∀ rest : List Summary, (∀ s ∈ rest, s = Summary.stopped) →
      rest.foldl Summary.merge Summary.stopped = Summary.stopped := by
    intro rest hrest
    induction rest with
    | nil => rfl
    | cons first rest ih =>
        rw [List.foldl_cons, hrest first List.mem_cons_self]
        exact ih fun s hs => hrest s (List.mem_cons_of_mem _ hs)
  cases summaries with
  | nil => exact absurd rfl hne
  | cons first rest =>
      have hfirst : Summary.merge Summary.empty first = Summary.stopped := by
        rw [h first List.mem_cons_self]
        rfl
      rw [Summary.ofFiles, List.foldl_cons, hfirst,
        hmerged rest fun s hs => h s (List.mem_cons_of_mem _ hs)]
      simp [Summary.sort, Summary.stopped, Summary.empty, Diagnostic.sort]

theorem analyze_of_cancelled (h : e.cancelled = true) {us : List SourceUnit} (hne : us ≠ []) :
    e.analyze us = Summary.stopped := by
  rw [analyze_eq_ofFiles]
  apply ofFiles_stopped
  · simpa using hne
  · intro s hs
    obtain ⟨u, -, rfl⟩ := List.mem_map.mp hs
    exact stopped_of_cancelled h u

/-- An engine carries no state from run to run but its words and its flag. While the flag is clear,
it finds what a new engine finds whose configuration has the words that were accepted last; the
parameters of the two may be read in any orders in which the names of each limit come alike. There
always is such an order, and every order is one if no limit is given under both of its names. Words
that are refused change nothing; a new engine refuses them as well. While the flag is set, nothing
is found in any units, and what follows is as if they had not been analyzed. -/
theorem session_eq_fresh (hvisits : c.IsVisit visits)
    (h : ofVisit refusal matching c visits = .ok e) (commands : List Command) :
    let now := e.after refusal commands
    let current := c.withWords (lastWords? refusal commands)
    (flagAfter commands = false →
      ∀ others, current.IsVisit others → Config.SameTurns visits others →
        ∃ fresh, ofVisit refusal matching current others = .ok fresh ∧
          (∀ us, now.analyze us = fresh.analyze us) ∧
          ∀ u, now.analyzeUnit u = fresh.analyzeUnit u) ∧
    (∃ others, current.IsVisit others ∧ Config.SameTurns visits others) ∧
    (c.GivesLimitsOnce → ∀ others, current.IsVisit others → Config.SameTurns visits others) ∧
    (∀ list cause, Config.parseWords refusal list = .error cause →
      now.answer refusal (.setWords list) = (now, .refused cause) ∧
        ∀ others, (c.withWords (some list)).IsVisit others →
          ofVisit refusal matching (c.withWords (some list)) others = .error cause) ∧
    (flagAfter commands = true → ∀ us, us ≠ [] →
      ((now.analyze us).diagnostics = [] ∧ (now.analyze us).filesProcessed = 0 ∧
        (now.analyze us).cancelled = true) ∧
      ∀ later, now.replies refusal (.analyze us :: later) =
        .found (now.analyze us) :: now.replies refusal later) := by
  intro now current
  obtain ⟨s, hs, hnow⟩ : ∃ s, Config.readParameters refusal visits = .ok s ∧
      Reflects refusal matching c s (lastWords? refusal commands) (flagAfter commands) now :=
    reflects_after h commands
  refine ⟨?_, Config.exists_sameTurns hvisits _, ?_, ?_, ?_⟩
  · intro hflag others hothers hturns
    have hfresh : ofVisit refusal matching current others =
        .ok ⟨current, now.settings, matching, false⟩ :=
      ofVisit_eq_ok_iff.mpr ⟨now.settings,
        Config.readParameters_withWords hvisits hs hnow.settings hothers hturns, rfl⟩
    have hsame : now = ⟨c, now.settings, matching, false⟩ := by
      rw [← hnow.config, ← hnow.matching, ← hflag, ← hnow.cancelled]
    have hunit : ∀ u, now.analyzeUnit u =
        analyzeUnit ⟨current, now.settings, matching, false⟩ u := by
      intro u
      rw [analyzeUnit_withWords]
      exact congrArg (fun e => analyzeUnit e u) hsame
    refine ⟨_, hfresh, ?_, hunit⟩
    intro us
    rw [analyze_eq_ofFiles, analyze_eq_ofFiles]
    exact congrArg Summary.ofFiles (List.map_congr_left fun u _ => hunit u)
  · intro honce others hothers
    exact honce.sameTurns hvisits hothers
  · intro list cause hcause
    constructor
    · rw [answer, replaceWords, hcause]
      rfl
    · intro others hothers
      rw [ofVisit, Config.readParameters_of_refused hvisits hs hcause hothers]
      rfl
  · intro hflag us hne
    have hstopped := analyze_of_cancelled (hnow.cancelled.trans hflag) hne
    refine ⟨?_, fun later => rfl⟩
    rw [hstopped]
    exact ⟨rfl, rfl, rfl⟩

/-- A configuration that gives words and a limit. -/
def tuned : Config :=
  { Config.standard with
    parameters := (Config.standard.parameters.insert "max" (.number (.natural 3))).insert
      Config.wordsKey (.text "key") }

/-- Where only very long lists of words are refused: the last words count after a reset, in whatever
order the parameters are read, and nothing is found before it. -/
theorem session_eq_fresh_reset :
    let refusal : Config.Refusal := fun words =>
      if 1000000 < (words.map List.length).sum then
        some "Compiled regex exceeds size limit of 10485760 bytes."
      else none
    let visits : List (String × Config.Setting) :=
      [("max", .number (.natural 3)), (Config.wordsKey, .text "key")]
    let commands : List Command := [.setWords "token, secret", .cancel, .setWords "pin", .reset]
    tuned.IsVisit visits ∧
      ∃ e, ofVisit refusal Glob.isMatch tuned visits = .ok e ∧
        (∀ others, (tuned.withWords (some "pin")).IsVisit others →
          ∃ fresh,
            ofVisit refusal Glob.isMatch (tuned.withWords (some "pin")) others = .ok fresh ∧
            (∀ us, (e.after refusal commands).analyze us = fresh.analyze us) ∧
            ∀ u, (e.after refusal commands).analyzeUnit u = fresh.analyzeUnit u) ∧
        ∀ u, ((e.after refusal [.cancel]).analyze [u]).diagnostics = [] ∧
          ((e.after refusal [.cancel]).analyze [u]).filesProcessed = 0 ∧
          ((e.after refusal [.cancel]).analyze [u]).cancelled = true := by
  intro refusal visits commands
  have hvisits : tuned.IsVisit visits := .swap _ _ _
  have honce : tuned.GivesLimitsOnce := ⟨by decide, by decide⟩
  obtain ⟨e, h⟩ : ∃ e, ofVisit refusal Glob.isMatch tuned visits = .ok e := ⟨_, rfl⟩
  have hlast : lastWords? refusal commands = some "pin" := rfl
  obtain ⟨hfresh, -, hturns, -, -⟩ := session_eq_fresh hvisits h commands
  obtain ⟨-, -, -, -, hcancelled⟩ := session_eq_fresh hvisits h [.cancel]
  rw [hlast] at hfresh hturns
  refine ⟨hvisits, e, h, ?_, fun u => (hcancelled rfl [u] (by simp)).1⟩
  intro others hothers
  exact hfresh rfl others hothers (hturns honce others hothers)

end Engine
end TreeLint
