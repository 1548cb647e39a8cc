import TreeLint.Proofs.Rule.Message
import TreeLint.Proofs.Rule.Wording

/-!
# What the rule on credentials asks for

The rule has three requests that track known interfaces and one that searches assigned strings. Each
of them asks for its kinds once and for no record, so that the messages of the rule can be told node
by node.

**Results.**
* `messagesOf_eq_flatMap_textsAt`: the messages of the rule, node by node.
* `textsAt_eq`: what is said at a node.
* `fill_message`: the rule says a message as it is.
-/

namespace TreeLint
namespace Rule
namespace HardcodedCredentials

open Report Source Symbols Syntax

/-! ## Where the rule runs -/

/-- The requests for tracked interfaces. -/
def trackers (g : Grammar) : List Request :=
  [trackCreations g descriptor [passwordMessage] (constantArgument networkCredential 1),
    trackCreations g descriptor [passwordMessage] (constantArgument passwordDeriveBytes 0),
    trackAccesses g descriptor [passwordMessage] constantPassword]

/-- The request for assigned strings. -/
def wordRequest (words : Credential.WordSet) (g : Grammar) : Request :=
  ⟨candidates g.language, wordAction words⟩

/-- The kinds that the rule asks for. -/
def requestedKinds (l : Language) : List Grammar.KindSet :=
  [(grammarOf l).objectCreation, (grammarOf l).identifierName, candidates (grammarOf l).language]

theorem requests_eq (words : Credential.WordSet) (g : Grammar) :
    requests words g = trackers g ++ [wordRequest words g] :=
  rfl

theorem requestsOf_descriptor (s : Settings) (l : Language) :
    requestsOf descriptor s l = requests s.words (grammarOf l) := by
  cases l <;> rfl

theorem kinds_mem_requestedKinds {words : Credential.WordSet} {l : Language} {q : Request}
    (hq : q ∈ requests words (grammarOf l)) : q.kinds ∈ requestedKinds l := by
  simp only [requests, List.mem_cons, List.not_mem_nil, or_false] at hq
  rcases hq with rfl | rfl | rfl | rfl <;>
    simp [requestedKinds, trackCreations, trackAccesses]

theorem asksOnce_requests (words : Credential.WordSet) (l : Language) :
    ∀ q ∈ requests words (grammarOf l), q.AsksOnce (grammarOf l) := by
  have hkinds : ∀ ks ∈ requestedKinds l,
      ks.Nodup ∧ (∀ k ∈ ks, (grammarOf l).knows k = true) ∧
        ∀ k ∈ ks, (grammarOf l).record.contains k = false := by
    cases l <;> decide
  intro q hq
  obtain ⟨hnodup, hknows, hrecord⟩ := hkinds q.kinds (kinds_mem_requestedKinds hq)
  exact ⟨⟨hnodup, hknows⟩, hrecord⟩

/-- What is said at a node. -/
def textsAt (words : Credential.WordSet) (l : Language) (u : SourceUnit) (n : Node) :
    List String :=
  (requests words (grammarOf l)).flatMap fun q => q.texts ⟨grammarOf l, u, n, .declaration⟩

theorem messagesOf_eq_flatMap_textsAt (s : Settings) (l : Language) (u : SourceUnit) :
    messagesOf descriptor s l u = u.nodes.flatMap (textsAt s.words l u) := by
  have honce : ∀ q ∈ requestsOf descriptor s l, q.AsksOnce (grammarOf l) := by
    rw [requestsOf_descriptor]
    exact asksOnce_requests s.words l
  rw [messagesOf_eq_flatMap_requests u honce, requestsOf_descriptor]
  rfl

/-- Nothing is said at a node of a kind that the rule does not ask for. -/
theorem textsAt_eq_nil {l : Language} {n : Node} (h : ∀ ks ∈ requestedKinds l, n.isAny ks = false)
    (words : Credential.WordSet) (u : SourceUnit) : textsAt words l u n = [] := by
  rw [textsAt, List.flatMap_eq_nil_iff]
  intro q hq
  have hnot : q.kinds.contains n.kind = false := h q.kinds (kinds_mem_requestedKinds hq)
  rw [Request.texts, hnot]
  rfl

/-- A tracker says the same at two nodes of one kind at which its conditions hold alike. -/
theorem texts_trackAction {α : Type} {holds : Visit → α → Bool} {v v' : Visit}
    {conditions : List (Condition α)}
    (hholds : conditions.all (Condition.holds (holds v')) =
      conditions.all (Condition.holds (holds v)))
    (hkind : v'.node.kind = v.node.kind) (kinds : Grammar.KindSet) (d : Descriptor)
    (args : List String) :
    Request.texts ⟨kinds, trackAction holds d args conditions⟩ v' =
      Request.texts ⟨kinds, trackAction holds d args conditions⟩ v := by
  rw [Request.texts, Request.texts, hkind]
  simp only [trackAction, hholds]
  split
  · split <;> rfl
  · rfl

/-- The rule says the message itself. -/
@[simp] theorem fill_message (m : String) : fill descriptor.message [m] = m := by
  have htemplate : descriptor.message = "" ++ "\x7b0\x7d" ++ "" := by
    rfl
  rw [htemplate, fill_singleton (by decide) (by decide), String.empty_append, String.append_empty]

theorem texts_wordRequest (words : Credential.WordSet) (g : Grammar) (u : SourceUnit) (n : Node)
    (pass : Pass) :
    (wordRequest words g).texts ⟨g, u, n, pass⟩ = (message? words g n).toList := by
  rw [Request.texts]
  show ite ((candidates g.language).contains n.kind = true) _ _ = _
  split
  · rw [wordRequest, wordAction]
    dsimp only
    cases message? words g n with
    | none => rfl
    | some m => exact congrArg (fun text => [text]) (fill_message m)
  · rename_i hkind
    rw [List.contains_iff_mem, candidates, List.mem_append, not_or] at hkind
    have hdeclarations : n.isAny (sites g.language).declarations ≠ true :=
      fun hany => hkind.1 (List.contains_iff_mem.mp hany)
    have hassignments : n.isAny (sites g.language).assignments ≠ true :=
      fun hany => hkind.2 (List.contains_iff_mem.mp hany)
    rw [message?, assigned?, if_neg hdeclarations, if_neg hassignments]
    rfl

theorem textsAt_eq (words : Credential.WordSet) (l : Language) (u : SourceUnit) (n : Node) :
    textsAt words l u n =
      ((trackers (grammarOf l)).flatMap fun q => q.texts ⟨grammarOf l, u, n, .declaration⟩) ++
        (message? words (grammarOf l) n).toList := by
  simp [textsAt, requests_eq, texts_wordRequest]

end HardcodedCredentials
end Rule
end TreeLint
