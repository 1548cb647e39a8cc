import TreeLint.Proofs.Rule.Retelling

/-!
# Generic parameters and the second visit of records

A positional record is visited a second time, and every action that is registered for its kind runs
again. Only the rule on generic parameters asks for records, and its action does nothing in the
second visit. So of each declaration there is one report at most: that of its first visit.

**Results.**
* `run_primaryConstructor`: nothing is found in second visits.
* `flatMap_diagnostics_runsAt`: so they may be left out.
* `GenericParameters.diagnostics_declarationRunsAt`: what the rule reports at a node.
* `GenericParameters.isReported_of_le`: what is reported under higher limits.
-/

namespace TreeLint
namespace Rule

open Report Source Syntax

/-! ## Second visits -/

/-- The requests of a language that list a kind of records are for the action that leaves out second
visits. -/
theorem record_or_runType {s : Settings} {l : Language} {rule : Descriptor × List Request}
    (hrule : rule ∈ rulesOf s l) {q : Request} (hq : q ∈ rule.2) :
    (∀ k ∈ q.kinds, (grammarOf l).record.contains k = false) ∨
      q.action.run = GenericParameters.runType s.maxInClass := by
  have hcredentials : ∀ l, q ∈ HardcodedCredentials.requests s.words (grammarOf l) →
      ∀ k ∈ q.kinds, (grammarOf l).record.contains k = false :=
    fun l hq => (HardcodedCredentials.asksOnce_requests s.words l q hq).record
  have hmethods : ∀ k ∈ GenericParameters.methodKinds,
      Grammar.csharp.record.contains k = false := by
    decide
  cases l with
  | csharp =>
      simp only [rulesOf, List.mem_cons, List.not_mem_nil, or_false] at hrule
      rcases hrule with rfl | rfl | rfl | rfl | rfl
      · exact .inl (hcredentials .csharp hq)
      · rw [List.mem_singleton.mp hq]
        exact .inl (by decide)
      · simp only [GenericParameters.requests, List.mem_cons, List.not_mem_nil, or_false] at hq
        rcases hq with rfl | rfl
        · exact .inr rfl
        · exact .inl hmethods
      · rw [List.mem_singleton.mp hq]
        exact .inl (by decide)
      · rw [List.mem_singleton.mp hq]
        exact .inl (by decide)
  | visualBasic => exact .inl fun k _ => rfl

/-- Nothing is found in the second visit of a record. -/
theorem run_primaryConstructor {s : Settings} {l : Language} {a : Action} {n : Node}
    (ha : a ∈ (registryOf s l).actionsFor n.kind)
    (hn : (grammarOf l).isPositionalRecord n = true) (g : Grammar) (u : SourceUnit) :
    a.run ⟨g, u, n, .primaryConstructor⟩ = [] := by
  obtain ⟨rule, hrule, q, hq, hkind, rfl⟩ := exists_rule_of_mem_actionsFor ha
  rcases record_or_runType hrule hq with hnot | hrun
  · rw [Grammar.isPositionalRecord, Node.isAny, hnot n.kind hkind] at hn
    cases hn
  · rw [hrun]
    rfl

/-- The runs at a node that is visited as a declaration only. -/
def Registry.declarationRunsAt (r : Registry) (enabled : String → Bool) (u : SourceUnit)
    (n : Node) : List Run :=
  ((r.actionsFor n.kind).filter fun a => enabled a.descriptor.id).map fun a =>
    a.runAt ⟨r.grammar, u, n, .declaration⟩

/-- The second visit of a node adds no diagnostic. -/
theorem flatMap_diagnostics_runsAt (s : Settings) (l : Language) (enabled : String → Bool)
    (u : SourceUnit) (n : Node) :
    ((registryOf s l).runsAt enabled u n).flatMap Run.diagnostics =
      ((registryOf s l).declarationRunsAt enabled u n).flatMap Run.diagnostics := by
  rw [Registry.runsAt, Registry.declarationRunsAt, passes,
    (Registry.answers_registryOf s l).grammar]
  split
  · next hrecord =>
      rw [List.flatMap_cons, List.flatMap_singleton, List.flatMap_append, List.append_right_eq_self,
        List.flatMap_map, List.flatMap_eq_nil_iff]
      intro a ha
      rw [Action.runAt, run_primaryConstructor (List.mem_filter.mp ha).1 hrecord]
      rfl
  · rw [List.flatMap_singleton]

namespace GenericParameters

/-! ## Reports -/

/-- The most generic parameters that a declaration may have; other nodes have no limit. -/
def limit? (s : Settings) (n : Node) : Option Nat :=
  if n.isAny typeKinds then some s.maxInClass
  else if n.isAny methodKinds then some s.maxInMethod
  else none

/-- What is said about a declaration of a name. -/
def argsFor (n : Node) (name : String) (limit : Nat) : List String :=
  if n.isAny typeKinds then [name, typeWord n.kind, toString limit]
  else [qualifiedName Grammar.csharp n name, "method", toString limit]

/-- The report on a declaration at the identifier that names it. -/
def report (u : SourceUnit) (n token : Node) (limit : Nat) : Diagnostic where
  ruleId := "S2436"
  severity := .warning
  message := fill descriptor.message
    (argsFor n (String.ofList (Grammar.csharp.bareIdentifier token.text.toList)) limit)
  path := u.path
  span := token.span
  help := some "Types and methods should not have too many generic parameters"

/-- The report on a declaration that has an identifier and more generic parameters than a limit. -/
def reportOver? (u : SourceUnit) (n : Node) (limit : Nat) : Option Diagnostic :=
  if limit < parameterCount n then
    (Grammar.csharp.identifier? n).map fun token => report u n token limit
  else none

/-- The report on a node. -/
def report? (s : Settings) (u : SourceUnit) (n : Node) : Option Diagnostic :=
  (limit? s n).bind (reportOver? u n)

section Reports

variable (s : Settings) (u : SourceUnit) (n : Node)

theorem listsOnce_requests :
    ∀ q ∈ requests s.maxInClass s.maxInMethod, q.ListsOnce Grammar.csharp := by
  have hkinds : ∀ ks ∈ [typeKinds, methodKinds],
      ks.Nodup ∧ ∀ k ∈ ks, Grammar.csharp.knows k = true := by
    decide
  intro q hq
  have hmem : q.kinds ∈ [typeKinds, methodKinds] := by
    simp only [requests, List.mem_cons, List.not_mem_nil, or_false] at hq
    rcases hq with rfl | rfl
    · exact List.mem_cons_self
    · exact List.mem_cons_of_mem _ List.mem_cons_self
  exact ⟨(hkinds q.kinds hmem).1, (hkinds q.kinds hmem).2⟩

/-- At a node the rule runs for types, or for methods, or not at all. -/
theorem askedFor_requests :
    askedFor Grammar.csharp (requests s.maxInClass s.maxInMethod) n.kind =
      if n.isAny typeKinds then [⟨descriptor, runType s.maxInClass⟩]
      else if n.isAny methodKinds then [⟨descriptor, runMethod s.maxInMethod⟩]
      else [] := by
  have hapart : n.isAny typeKinds = true → n.isAny methodKinds = false := by
    have hkinds : ∀ k ∈ typeKinds, methodKinds.contains k = false := by decide
    exact fun h => hkinds n.kind (List.contains_iff_mem.mp h)
  rw [askedFor_of_listsOnce (listsOnce_requests s)]
  show (if n.isAny typeKinds then _ else _) ++ ((if n.isAny methodKinds then _ else _) ++ []) = _
  rw [List.append_nil]
  split
  · next htype => rw [hapart htype, if_neg Bool.false_ne_true, List.append_nil]
  · rw [List.nil_append]

theorem name?_eq (token : Node) (h : Grammar.csharp.identifier? n = some token) :
    Grammar.csharp.name? n =
      some (String.ofList (Grammar.csharp.bareIdentifier token.text.toList)) := by
  rw [Grammar.name?, h, Option.map_some]

theorem diagnostics_runType (h : n.isAny typeKinds = true) (limit : Nat) :
    (Action.runAt ⟨descriptor, runType limit⟩ ⟨Grammar.csharp, u, n, .declaration⟩).diagnostics =
      (reportOver? u n limit).toList := by
  rw [Action.runAt, reportOver?]
  dsimp only
  rw [runType]
  dsimp only
  by_cases hover : limit < parameterCount n
  · rw [if_pos hover, decide_eq_false (by omega)]
    cases hname : Grammar.csharp.identifier? n with
    | none => rfl
    | some token =>
        rw [name?_eq n token hname, Option.map_some, report, argsFor, if_pos h]
        rfl
  · rw [if_neg hover, decide_eq_true (by omega)]
    rfl

theorem diagnostics_runMethod (h : ¬n.isAny typeKinds = true) (limit : Nat) :
    (Action.runAt ⟨descriptor, runMethod limit⟩ ⟨Grammar.csharp, u, n, .declaration⟩).diagnostics =
      (reportOver? u n limit).toList := by
  rw [Action.runAt, reportOver?]
  dsimp only
  rw [runMethod]
  dsimp only
  by_cases hover : limit < parameterCount n
  · rw [if_pos hover, if_neg (by omega)]
    cases hname : Grammar.csharp.identifier? n with
    | none => rfl
    | some token =>
        rw [name?_eq n token hname, Option.map_some, report, argsFor, if_neg h]
        rfl
  · rw [if_neg hover, if_pos (by omega)]
    rfl

/-- What the rule reports at a node. -/
theorem diagnostics_declarationRunsAt :
    ((registryOf s .csharp).declarationRunsAt (fun id => id == "S2436") u n).flatMap
        Run.diagnostics =
      (report? s u n).toList := by
  have hasked : ((registryOf s .csharp).actionsFor n.kind).filter
      (fun a => a.descriptor.id == "S2436") =
        askedFor Grammar.csharp (requests s.maxInClass s.maxInMethod) n.kind :=
    filter_actionsFor_eq s .csharp "S2436" n.kind
  rw [Registry.declarationRunsAt, hasked, askedFor_requests, List.flatMap_map, report?, limit?,
    (Registry.answers_registryOf s .csharp).grammar]
  split
  · next htype =>
      rw [List.flatMap_singleton]
      exact diagnostics_runType u n htype s.maxInClass
  · next htype =>
      split
      · rw [List.flatMap_singleton]
        exact diagnostics_runMethod u n htype s.maxInMethod
      · rfl

end Reports

/-! ## Higher limits -/

/-- Whether a declaration is reported. -/
def isReported (s : Settings) (n : Node) : Bool :=
  (limit? s n).any (· < parameterCount n) && (Grammar.csharp.identifier? n).isSome

theorem exists_limit?_le {s t : Settings} (hclass : s.maxInClass ≤ t.maxInClass)
    (hmethod : s.maxInMethod ≤ t.maxInMethod) {n : Node} {limit : Nat}
    (h : limit? t n = some limit) : ∃ lower, limit? s n = some lower ∧ lower ≤ limit := by
  rw [limit?] at h ⊢
  by_cases htype : n.isAny typeKinds = true
  · rw [if_pos htype] at h ⊢
    cases h
    exact ⟨_, rfl, hclass⟩
  · rw [if_neg htype] at h ⊢
    by_cases hkind : n.isAny methodKinds = true
    · rw [if_pos hkind] at h ⊢
      cases h
      exact ⟨_, rfl, hmethod⟩
    · rw [if_neg hkind] at h
      cases h

/-- What is reported under higher limits is reported under lower ones. -/
theorem isReported_of_le {s t : Settings} (hclass : s.maxInClass ≤ t.maxInClass)
    (hmethod : s.maxInMethod ≤ t.maxInMethod) {n : Node} (h : isReported t n = true) :
    isReported s n = true := by
  rw [isReported, Bool.and_eq_true, Option.any_eq_true] at h ⊢
  obtain ⟨⟨limit, hlimit, hover⟩, hnamed⟩ := h
  obtain ⟨lower, hlower, hle⟩ := exists_limit?_le hclass hmethod hlimit
  exact ⟨⟨lower, hlower, decide_eq_true (Nat.lt_of_le_of_lt hle (of_decide_eq_true hover))⟩, hnamed⟩

end GenericParameters
end Rule
end TreeLint
