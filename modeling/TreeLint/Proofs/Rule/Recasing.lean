import TreeLint.Proofs.Rule.Retelling
import TreeLint.Proofs.Text.Lowering

/-!
# Texts in another case

A Visual Basic unit may be spelled in lower case throughout. Its identifiers lose neither the
brackets that escape them nor their likeness to other names, since names are compared in lower case.
So whatever goes by symbols, names and constants finds the same in the unit as it was; only the
search of assigned strings reads the texts themselves.

**Results.**
* `Grammar.VisualBasic.bareIdentifier_lowerEach`: brackets and lower case.
* `Grammar.comparesAlike_inLowerCase`: names compare alike in lower case.
* `SourceUnit.retellsShape_inLowerCase`: the unit in lower case.
* `Registry.analyze_of_followsIn`: requests whose actions find the same in two units.
* `filter_diagnostics_runAt`: what all actions for Visual Basic find by symbols.
-/

namespace TreeLint

open Report Source Symbols Syntax

/-! ## Identifiers -/

namespace Text

variable {d : Char}

/-- A character that is the lower case of no other stands at the end after lower-casing if it stood
there before. -/
theorem getLast?_lowerEach (hd : ¬IsPutIn d) (hsame : lowerChar d = [d]) (cs : List Char) :
    (lowerEach cs).getLast? = some d ↔ cs.getLast? = some d := by
  rcases List.eq_nil_or_concat cs with rfl | ⟨init, c, rfl⟩
  · rfl
  · rw [List.concat_eq_append, lowerEach, List.flatMap_append, List.flatMap_singleton,
      List.getLast?_append_of_ne_nil _ (lowerChar_ne_nil c), List.getLast?_concat]
    constructor
    · intro h
      rw [eq_of_mem_lowerChar hd (List.mem_of_getLast? h)]
    · intro h
      rw [Option.some.inj h, hsame]
      rfl

end Text

namespace Grammar

open Text

namespace VisualBasic

theorem bareIdentifier_of_ne {c : Char} (h : c ≠ '[') (cs : List Char) :
    bareIdentifier (c :: cs) = c :: cs := by
  rw [bareIdentifier]
  intro rest hcs
  exact h (List.head_eq_of_cons_eq hcs)

/-- Brackets are neither put in nor changed by lower-casing. -/
theorem bareIdentifier_lowerEach (cs : List Char) :
    bareIdentifier (lowerEach cs) = lowerEach (bareIdentifier cs) := by
  have hopening : lowerChar '[' = ['['] := by decide +kernel
  have hclosing : lowerChar ']' = [']'] := by decide +kernel
  have hputIn : ¬IsPutIn '[' ∧ ¬IsPutIn ']' := by decide +kernel
  cases cs with
  | nil => rfl
  | cons c rest =>
      have hcons : lowerEach (c :: rest) = lowerChar c ++ lowerEach rest := List.flatMap_cons
      by_cases hc : c = '['
      · subst hc
        rw [hcons, hopening, List.singleton_append, bareIdentifier, bareIdentifier]
        by_cases hlast : rest.getLast? = some ']'
        · obtain ⟨inner, rfl⟩ := List.getLast?_eq_some_iff.mp hlast
          simp [lowerEach, hclosing]
        · rw [if_neg fun h => hlast ((getLast?_lowerEach hputIn.2 hclosing _).mp h), if_neg hlast,
            hcons, hopening]
          rfl
      · obtain ⟨d, more, hlower⟩ := List.exists_cons_of_ne_nil (lowerChar_ne_nil c)
        have hd : d ≠ '[' := by
          rintro rfl
          exact hc (eq_of_mem_lowerChar hputIn.1 (hlower ▸ List.mem_cons_self))
        simp [bareIdentifier_of_ne hc, hcons, hlower, bareIdentifier_of_ne hd]

end VisualBasic
end Grammar

namespace Syntax

/-- What a node carries, with its text in lower case, character by character. -/
def NodeInfo.inLowerCase (i : NodeInfo) : NodeInfo :=
  { i with text := i.text.map fun s => String.ofList (Text.lowerEach s.toList) }

theorem NodeInfo.keepsShape_inLowerCase : NodeInfo.KeepsShape NodeInfo.inLowerCase :=
  ⟨fun _ => rfl, fun _ => rfl, fun _ => rfl, fun _ => rfl, fun _ => rfl, fun _ => rfl⟩

@[simp] theorem Node.text_inLowerCase (n : Node) :
    (n.mapInfo NodeInfo.inLowerCase).text.toList = Text.lowerEach n.text.toList := by
  rw [text, text, info_mapInfo, NodeInfo.inLowerCase]
  cases n.info.text with
  | none => rfl
  | some s => exact String.toList_ofList

end Syntax

/-- Names in Visual Basic compare alike in lower case. -/
theorem Grammar.comparesAlike_inLowerCase :
    Grammar.visualBasic.ComparesAlike NodeInfo.inLowerCase := by
  intro n name
  rw [name?, name?, identifier?_mapInfo NodeInfo.keepsShape_inLowerCase]
  cases visualBasic.identifier? n with
  | none => rfl
  | some token =>
      have hbare : visualBasic.bareIdentifier (token.mapInfo NodeInfo.inLowerCase).text.toList =
          Text.lowerEach (visualBasic.bareIdentifier token.text.toList) := by
        rw [Node.text_inLowerCase]
        exact VisualBasic.bareIdentifier_lowerEach token.text.toList
      simp only [Option.map_some, Option.any_some, hbare]
      show (Text.lowerEach _ == _) = (Text.lowerEach _ == _)
      simp

namespace Source.SourceUnit

/-- The unit with all texts in lower case. -/
def inLowerCase (u : SourceUnit) : SourceUnit :=
  { u with tree := u.tree.mapInfo NodeInfo.inLowerCase }

/-- Two units whose texts differ at most in the case of letters. -/
def SameButCase (u v : SourceUnit) : Prop :=
  u.inLowerCase = v.inLowerCase

theorem retellsShape_inLowerCase (u : SourceUnit) :
    SourceUnit.RetellsShape NodeInfo.inLowerCase id u u.inLowerCase where
  keepsShape := NodeInfo.keepsShape_inLowerCase
  keepsMeaning := ⟨fun _ => rfl, fun _ => rfl, fun _ => rfl, fun _ => rfl, fun _ => rfl,
    fun _ _ => Iff.rfl⟩
  path := rfl
  language := rfl
  tree := rfl
  reference? := by
    intro n
    rw [reference?, Node.info_mapInfo, Option.map_id]
    rfl
  declared? := by
    intro n
    rw [declared?, Node.info_mapInfo, Option.map_id]
    rfl
  overridden? := by
    intro s
    rw [Option.map_id]
    rfl

end Source.SourceUnit

namespace Rule

variable {f : NodeInfo → NodeInfo} {h : Symbol → Symbol} {u v : SourceUnit} {g : Grammar}

/-! ## Requests -/

/-- Requests whose actions find the same in two units have the same diagnostics there. -/
theorem Registry.analyze_of_followsIn (hr : SourceUnit.RetellsShape f h u v) {qs : List Request}
    (hfollows : ∀ q ∈ qs, q.action.FollowsIn g f u v) :
    (qs.foldl Registry.request (Registry.empty g)).analyze v =
      (qs.foldl Registry.request (Registry.empty g)).analyze u := by
  have hanswers : (qs.foldl Registry.request (Registry.empty g)).Answers g qs :=
    (Registry.answers_empty g).foldl_request qs
  rw [Registry.analyze, Registry.analyze, Registry.runs, Registry.runs, nodes_of_retells hr,
    Registry.runsOver_of_follows hr]
  intro kind a ha _
  rw [hanswers.actions, askedFor] at ha
  rw [hanswers.grammar]
  split at ha
  · obtain ⟨q, hq, ha⟩ := List.mem_flatMap.mp ha
    rw [(List.mem_replicate.mp ha).2]
    exact hfollows q hq
  · cases ha

/-- The requests that go by symbols: those of the rule on the system clock, and the trackers of the
rule on credentials. -/
def symbolRequests (g : Grammar) : List Request :=
  SystemClock.requests g ++ HardcodedCredentials.trackers g

theorem followsIn_of_mem_symbolRequests (hr : SourceUnit.RetellsShape f h u v)
    (hnames : g.ComparesAlike f) {q : Request} (hq : q ∈ symbolRequests g) :
    q.action.FollowsIn g f u v := by
  rcases List.mem_append.mp hq with hq | hq
  · rw [List.mem_singleton.mp hq]
    exact SystemClock.followsIn_run hr hnames
  · exact HardcodedCredentials.followsIn_of_mem_trackers hr g hnames hq

/-! ## Diagnostics -/

/-- Whether a diagnostic is one of the rule on the system clock or one of the trackers. -/
def goesBySymbols (d : Diagnostic) : Bool :=
  d.ruleId == "S6354" || d.ruleId == "S2068" && d.message == HardcodedCredentials.passwordMessage

/-- What is said about assigned strings is not what the trackers say. -/
theorem HardcodedCredentials.message?_ne_passwordMessage (words : Credential.WordSet)
    (g : Grammar) (n : Node) : message? words g n ≠ some passwordMessage := by
  intro h
  obtain ⟨⟨name, value⟩, -, h⟩ := Option.bind_eq_some_iff.mp h
  dsimp only at h
  split at h
  · obtain ⟨text, -, h⟩ := Option.bind_eq_some_iff.mp h
    rw [Credential.message?] at h
    split at h
    · cases h
    · split at h
      · split at h
        · exact absurd (Option.some.inj h) (by decide)
        · cases h
      · -- a list of words stands in quotes
        have hfirst := congrArg (fun m => m.toList.head?) (Option.some.inj h)
        rw [Credential.wordsMessage, String.append_assoc, String.toList_append] at hfirst
        have hquote : '"' = 'P' := Option.some.inj hfirst
        exact absurd hquote (by decide)
  · cases h

/-- The search of assigned strings goes by their texts. -/
theorem filter_diagnostics_wordAction (words : Credential.WordSet) (v : Visit) :
    ((HardcodedCredentials.wordAction words).runAt v).diagnostics.filter goesBySymbols = [] := by
  rw [Action.runAt, HardcodedCredentials.wordAction]
  dsimp only
  cases hmessage : HardcodedCredentials.message? words v.grammar v.node with
  | none => rfl
  | some m =>
      have hother : m ≠ HardcodedCredentials.passwordMessage := by
        rintro rfl
        exact HardcodedCredentials.message?_ne_passwordMessage words v.grammar v.node hmessage
      have hid : (HardcodedCredentials.descriptor.id == "S6354") = false := by decide
      rw [List.map_singleton, List.filter_eq_nil_iff]
      intro d hd
      rw [List.mem_singleton.mp hd, goesBySymbols]
      simp [Action.diagnostic, Wording.rule, Wording.args, HardcodedCredentials.fill_message, hid,
        hother]

/-- What the actions for Visual Basic find by symbols is the same in two units whose names compare
alike. -/
theorem filter_diagnostics_runAt {s : Settings} {kind : String} {a : Action}
    (hr : SourceUnit.RetellsShape f h u v) (hnames : Grammar.visualBasic.ComparesAlike f)
    (ha : a ∈ (registryOf s .visualBasic).actionsFor kind) (n : Node) (pass : Pass) :
    (a.runAt ⟨Grammar.visualBasic, v, n.mapInfo f, pass⟩).diagnostics.filter goesBySymbols =
      (a.runAt ⟨Grammar.visualBasic, u, n, pass⟩).diagnostics.filter goesBySymbols := by
  obtain ⟨rule, hrule, q, hq, -, rfl⟩ := exists_rule_of_mem_actionsFor ha
  have hcases : q ∈ symbolRequests Grammar.visualBasic ∨
      q = HardcodedCredentials.wordRequest s.words Grammar.visualBasic := by
    simp only [rulesOf, List.mem_cons, List.not_mem_nil, or_false] at hrule
    rcases hrule with rfl | rfl
    · rw [HardcodedCredentials.requests_eq, List.mem_append, List.mem_singleton] at hq
      exact hq.imp_left (List.mem_append_right _)
    · exact .inl (List.mem_append_left _ hq)
  rcases hcases with hq | rfl
  · rw [(followsIn_of_mem_symbolRequests hr hnames hq).runAt_eq hr]
  · rw [HardcodedCredentials.wordRequest, filter_diagnostics_wordAction,
      filter_diagnostics_wordAction]

/-- So is what they find by symbols at nodes of the units. -/
theorem filter_diagnostics_runsOver (hr : SourceUnit.RetellsShape f h u v)
    (hnames : Grammar.visualBasic.ComparesAlike f) (s : Settings) (enabled : String → Bool)
    (nodes : List Node) :
    (((registryOf s .visualBasic).runsOver enabled v (nodes.map (Node.mapInfo f))).flatMap
        Run.diagnostics).filter goesBySymbols =
      (((registryOf s .visualBasic).runsOver enabled u nodes).flatMap Run.diagnostics).filter
        goesBySymbols := by
  have hruns := (registryOf s .visualBasic).map_runsOver_of_retells enabled hr
    (fun run => run.diagnostics.filter goesBySymbols)
    (fun _ a ha _ n pass => by
      rw [(Registry.answers_registryOf s .visualBasic).grammar]
      exact filter_diagnostics_runAt hr hnames ha n pass) nodes
  rw [List.filter_flatMap, List.filter_flatMap, List.flatMap_def, hruns, ← List.flatMap_def]

end Rule
end TreeLint
