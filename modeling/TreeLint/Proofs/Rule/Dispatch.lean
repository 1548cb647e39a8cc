import TreeLint.Proofs.Report.Tallies
import TreeLint.Rule.Catalogue

/-!
# Dispatch and the rules that are enabled

The rules that are enabled are chosen while a unit is walked, in front of each run of an action.
Choosing them commutes with the walk: the runs of the enabled rules are those among the runs of all
rules that belong to an enabled rule, in the same order. Every run belongs to a rule of the
registry, and reports under the id of that rule and the path of its unit.

**Results.**
* `Registry.runsOver_eq_filter`: the enabled runs are a part of all runs.
* `Registry.flatMap_diagnostics_runsOver`: and so are their diagnostics.
* `mem_ids_of_mem_runsOver`, `mem_catalogue_of_mem_ids`: the rules to which runs belong.
* `registeredDescriptors_eq_catalogue`: the rules of all languages.
* `findingsOf_tallyRuns`: the tallies of runs count their diagnostics.
-/

namespace TreeLint
namespace Rule

open Report Source Syntax

/-- An action says what it finds in the words of its own rule. -/
def Action.IsOwn (a : Action) : Prop :=
  ∀ v, ∀ f ∈ a.run v, f.wording.rule a.descriptor = a.descriptor

namespace Registry

/-- The ids of the rules of a registry. -/
def ids (r : Registry) : List String :=
  r.descriptors.map Descriptor.id

/-! ## Actions and the rules they belong to -/

theorem actionsFor_addAction (a : Action) (r : Registry) (kind k : String) :
    (r.addAction a kind).actionsFor k =
      if kind = k then r.actionsFor k ++ [a] else r.actionsFor k := by
  by_cases hk : kind = k
  · subst hk
    simp [addAction, actionsFor]
  · simp [addAction, actionsFor, Std.TreeMap.getElem?_insert, hk]

theorem mem_actionsFor_addAction {a b : Action} {r : Registry} {kind k : String}
    (h : b ∈ (r.addAction a kind).actionsFor k) :
    b = a ∨ b ∈ r.actionsFor k := by
  rw [actionsFor_addAction] at h
  split at h
  · rw [List.mem_append, List.mem_singleton] at h
    exact h.symm
  · exact Or.inr h

/-- Every action of a registry belongs to one of its rules, and reports under that rule. -/
def Owned (r : Registry) : Prop :=
  ∀ kind, ∀ a ∈ r.actionsFor kind, a.IsOwn ∧ a.descriptor.id ∈ r.ids

theorem owned_empty (g : Grammar) : (empty g).Owned := by
  intro kind a ha
  simp [empty, actionsFor] at ha

theorem Owned.addAction {r : Registry} (h : r.Owned) {a : Action}
    (ha : a.IsOwn ∧ a.descriptor.id ∈ r.ids) (kind : String) :
    (r.addAction a kind).Owned := by
  intro k b hb
  rcases mem_actionsFor_addAction hb with rfl | hb
  · exact ha
  · exact h k b hb

@[simp] theorem descriptors_foldl_addAction (a : Action) (kinds : List String) :
    ∀ r : Registry, (kinds.foldl (Registry.addAction a) r).descriptors = r.descriptors := by
  induction kinds with
  | nil =>
      intro r
      rfl
  | cons kind kinds ih =>
      intro r
      exact ih (r.addAction a kind)

@[simp] theorem descriptors_request (r : Registry) (q : Request) :
    (r.request q).descriptors = r.descriptors :=
  descriptors_foldl_addAction q.action _ r

@[simp] theorem ids_request (r : Registry) (q : Request) : (r.request q).ids = r.ids := by
  simp [ids]

theorem Owned.foldl_addAction {a : Action} (kinds : List String) :
    ∀ {r : Registry}, r.Owned → a.IsOwn ∧ a.descriptor.id ∈ r.ids →
      (kinds.foldl (Registry.addAction a) r).Owned := by
  induction kinds with
  | nil =>
      intro r h _
      exact h
  | cons kind kinds ih =>
      intro r h ha
      exact ih (h.addAction ha kind) ha

theorem Owned.request {r : Registry} (h : r.Owned) {q : Request}
    (hq : q.action.IsOwn ∧ q.action.descriptor.id ∈ r.ids) :
    (r.request q).Owned :=
  Owned.foldl_addAction _ h hq

@[simp] theorem mem_ids_addDescriptor {r : Registry} {d : Descriptor} {id : String} :
    id ∈ (r.addDescriptor d).ids ↔ id ∈ r.ids ∨ id = d.id := by
  by_cases hd : (r.descriptors.any fun e => e.id == d.id) = true
  · have hmem : d.id ∈ r.ids := by
      obtain ⟨e, he, hid⟩ := List.any_eq_true.mp hd
      exact List.mem_map.mpr ⟨e, he, by simpa using hid⟩
    rw [addDescriptor, if_pos hd]
    constructor
    · exact Or.inl
    · rintro (h | rfl)
      · exact h
      · exact hmem
  · rw [addDescriptor, if_neg hd]
    simp [ids, eq_comm]

theorem Owned.addDescriptor {r : Registry} (h : r.Owned) (d : Descriptor) :
    (r.addDescriptor d).Owned := by
  intro kind a ha
  have hactions : (r.addDescriptor d).actionsFor kind = r.actionsFor kind := by
    unfold Registry.addDescriptor
    split <;> rfl
  rw [hactions] at ha
  obtain ⟨hown, hid⟩ := h kind a ha
  exact ⟨hown, mem_ids_addDescriptor.mpr (Or.inl hid)⟩

@[simp] theorem descriptors_foldl_request (qs : List Request) :
    ∀ r : Registry, (qs.foldl request r).descriptors = r.descriptors := by
  induction qs with
  | nil =>
      intro r
      rfl
  | cons q qs ih =>
      intro r
      simp [ih]

@[simp] theorem ids_foldl_request (qs : List Request) (r : Registry) :
    (qs.foldl request r).ids = r.ids := by
  simp [ids]

theorem Owned.foldl_request (qs : List Request) :
    ∀ {r : Registry}, r.Owned →
      (∀ q ∈ qs, q.action.IsOwn ∧ q.action.descriptor.id ∈ r.ids) →
      (qs.foldl Registry.request r).Owned := by
  induction qs with
  | nil =>
      intro r h _
      exact h
  | cons q qs ih =>
      intro r h hqs
      apply ih (h.request (hqs q (by simp)))
      intro p hp
      simpa using hqs p (by simp [hp])

theorem Owned.addRule {r : Registry} (h : r.Owned) {rule : Descriptor × List Request}
    (hrule : ∀ q ∈ rule.2, q.action.IsOwn ∧ q.action.descriptor = rule.1) :
    (r.addRule rule).Owned := by
  apply Owned.foldl_request rule.2 (h.addDescriptor rule.1)
  intro q hq
  obtain ⟨hown, hdescriptor⟩ := hrule q hq
  exact ⟨hown, mem_ids_addDescriptor.mpr (Or.inr (congrArg Descriptor.id hdescriptor))⟩

@[simp] theorem mem_ids_addRule {r : Registry} {rule : Descriptor × List Request} {id : String} :
    id ∈ (r.addRule rule).ids ↔ id ∈ r.ids ∨ id = rule.1.id := by
  simp [addRule]

end Registry

open Registry

theorem isOwn_trackAction {α : Type} (holds : Visit → α → Bool) (d : Descriptor)
    (args : List String) (conditions : List (Condition α)) :
    (trackAction holds d args conditions).IsOwn := by
  intro v f hf
  simp only [trackAction] at hf
  split at hf
  · obtain rfl := List.mem_singleton.mp hf
    rfl
  · cases hf

theorem HardcodedCredentials.isOwn_wordAction (words : Credential.WordSet) :
    (wordAction words).IsOwn := by
  intro v f hf
  simp only [wordAction] at hf
  split at hf
  · obtain rfl := List.mem_singleton.mp hf
    rfl
  · cases hf

theorem LoopCounter.isOwn_run : Action.IsOwn ⟨descriptor, run⟩ := by
  intro v f hf
  simp only [run] at hf
  split at hf
  · cases hf
  · obtain ⟨target, -, hfound⟩ := List.mem_filterMap.mp hf
    unfold finding? at hfound
    split at hfound
    · split at hfound
      · cases hfound
        rfl
      · cases hfound
    · cases hfound

theorem GenericParameters.isOwn_runType (max : Nat) :
    Action.IsOwn ⟨descriptor, runType max⟩ := by
  intro v f hf
  simp only [runType] at hf
  split at hf
  · cases hf
  · split at hf
    · obtain rfl := List.mem_singleton.mp hf
      rfl
    · cases hf

theorem GenericParameters.isOwn_runMethod (max : Nat) :
    Action.IsOwn ⟨descriptor, runMethod max⟩ := by
  intro v f hf
  simp only [runMethod] at hf
  split at hf
  · cases hf
  · split at hf
    · obtain rfl := List.mem_singleton.mp hf
      rfl
    · cases hf

theorem EmptyMethod.isOwn_run : Action.IsOwn ⟨descriptor, run⟩ := by
  intro v f hf
  simp only [run] at hf
  split at hf
  · cases hf
  · split at hf
    · obtain ⟨token, -, rfl⟩ := List.mem_map.mp hf
      rfl
    · cases hf

theorem SystemClock.isOwn_run : Action.IsOwn ⟨descriptor, run⟩ := by
  intro v f hf
  simp only [run] at hf
  split at hf
  · obtain rfl := List.mem_singleton.mp hf
    rfl
  · cases hf

theorem HardcodedCredentials.isOwn_of_mem_requests {words : Credential.WordSet} {g : Grammar}
    {q : Request} (hq : q ∈ requests words g) :
    q.action.IsOwn ∧ q.action.descriptor = descriptor := by
  simp only [requests, List.mem_cons, List.not_mem_nil, or_false] at hq
  rcases hq with rfl | rfl | rfl | rfl
  · exact ⟨isOwn_trackAction _ _ _ _, rfl⟩
  · exact ⟨isOwn_trackAction _ _ _ _, rfl⟩
  · exact ⟨isOwn_trackAction _ _ _ _, rfl⟩
  · exact ⟨isOwn_wordAction words, rfl⟩

theorem SystemClock.isOwn_of_mem_requests {g : Grammar} {q : Request} (hq : q ∈ requests g) :
    q.action.IsOwn ∧ q.action.descriptor = descriptor := by
  rw [List.mem_singleton.mp hq]
  exact ⟨isOwn_run, rfl⟩

/-- The actions that a rule of a language asks for are its own. -/
theorem isOwn_of_mem_rulesOf {s : Settings} {l : Language}
    {rule : Descriptor × List Request} (hrule : rule ∈ rulesOf s l)
    {q : Request} (hq : q ∈ rule.2) :
    q.action.IsOwn ∧ q.action.descriptor = rule.1 := by
  cases l with
  | csharp =>
      simp only [rulesOf, List.mem_cons, List.not_mem_nil, or_false] at hrule
      rcases hrule with rfl | rfl | rfl | rfl | rfl
      · exact HardcodedCredentials.isOwn_of_mem_requests hq
      · rw [List.mem_singleton.mp hq]
        exact ⟨LoopCounter.isOwn_run, rfl⟩
      · simp only [GenericParameters.requests, List.mem_cons, List.not_mem_nil, or_false] at hq
        rcases hq with rfl | rfl
        · exact ⟨GenericParameters.isOwn_runType s.maxInClass, rfl⟩
        · exact ⟨GenericParameters.isOwn_runMethod s.maxInMethod, rfl⟩
      · rw [List.mem_singleton.mp hq]
        exact ⟨EmptyMethod.isOwn_run, rfl⟩
      · exact SystemClock.isOwn_of_mem_requests hq
  | visualBasic =>
      simp only [rulesOf, List.mem_cons, List.not_mem_nil, or_false] at hrule
      rcases hrule with rfl | rfl
      · exact HardcodedCredentials.isOwn_of_mem_requests hq
      · exact SystemClock.isOwn_of_mem_requests hq

theorem owned_foldl_addRule (rules : List (Descriptor × List Request)) :
    ∀ {r : Registry}, r.Owned →
      (∀ rule ∈ rules, ∀ q ∈ rule.2, q.action.IsOwn ∧ q.action.descriptor = rule.1) →
      (rules.foldl Registry.addRule r).Owned := by
  induction rules with
  | nil =>
      intro r h _
      exact h
  | cons rule rules ih =>
      intro r h hrules
      apply ih
      · exact h.addRule (hrules rule (by simp))
      · intro other hother
        exact hrules other (by simp [hother])

/-- In the registry of a language every action belongs to a rule of the registry. -/
theorem owned_registryOf (s : Settings) (l : Language) : (registryOf s l).Owned :=
  owned_foldl_addRule (rulesOf s l) (owned_empty (grammarOf l))
    fun _ hrule _ hq => isOwn_of_mem_rulesOf hrule hq

theorem mem_ids_foldl_addRule {id : String} (rules : List (Descriptor × List Request)) :
    ∀ r : Registry,
      id ∈ (rules.foldl Registry.addRule r).ids ↔
        id ∈ r.ids ∨ ∃ rule ∈ rules, id = rule.1.id := by
  induction rules with
  | nil =>
      intro r
      simp
  | cons rule rules ih =>
      intro r
      rw [List.foldl_cons, ih, mem_ids_addRule]
      simp [or_assoc]

/-- The ids of the rules in the catalogue. -/
def catalogueIds : List String :=
  catalogue.map Descriptor.id

/-- The rules of a language are in the catalogue. -/
theorem mem_catalogue_of_mem_ids {s : Settings} {l : Language} {id : String}
    (h : id ∈ (registryOf s l).ids) : id ∈ catalogueIds := by
  rw [registryOf, mem_ids_foldl_addRule] at h
  rcases h with h | ⟨rule, hrule, rfl⟩
  · simp [Registry.empty, ids] at h
  · have hrules : ∀ d ∈ (rulesOf s l).map Prod.fst, d ∈ catalogue := by
      cases l <;> simp [rulesOf, catalogue]
    exact List.mem_map_of_mem (hrules rule.1 (List.mem_map_of_mem hrule))

/-- A list of descriptors with one more, unless there is one with its id. -/
def insertOnce (ds : List Descriptor) (d : Descriptor) : List Descriptor :=
  if ds.any fun e => e.id == d.id then ds else ds ++ [d]

namespace Registry

@[simp] theorem descriptors_addDescriptor (r : Registry) (d : Descriptor) :
    (r.addDescriptor d).descriptors = insertOnce r.descriptors d := by
  unfold addDescriptor insertOnce
  split <;> rfl

theorem descriptors_foldl_addDescriptor (ds : List Descriptor) :
    ∀ r : Registry, (ds.foldl addDescriptor r).descriptors = ds.foldl insertOnce r.descriptors := by
  induction ds with
  | nil =>
      intro r
      rfl
  | cons d ds ih =>
      intro r
      simp [ih]

theorem descriptors_foldl_addRule (rules : List (Descriptor × List Request)) :
    ∀ r : Registry,
      (rules.foldl addRule r).descriptors =
        (rules.map Prod.fst).foldl insertOnce r.descriptors := by
  induction rules with
  | nil =>
      intro r
      rfl
  | cons rule rules ih =>
      intro r
      simp [ih, addRule]

end Registry

/-- The rules of all languages are those of the catalogue, since all run on C#. -/
theorem registeredDescriptors_eq_catalogue (s : Settings) :
    registeredDescriptors s = catalogue := by
  have hcsharp : (rulesOf s .csharp).map Prod.fst = catalogue := rfl
  have hvisualBasic : (rulesOf s .visualBasic).map Prod.fst =
      [HardcodedCredentials.descriptor, SystemClock.descriptor] := rfl
  rw [registeredDescriptors, Registry.descriptors_foldl_addDescriptor, registryOf, registryOf,
    Registry.descriptors_foldl_addRule, Registry.descriptors_foldl_addRule, hcsharp, hvisualBasic]
  rfl

/-! ## Runs -/

/-- What a run reports goes under the id of its rule and the path of its unit. -/
def Run.ReportsFor (run : Run) (path : String) : Prop :=
  ∀ d ∈ run.diagnostics, d.ruleId = run.ruleId ∧ d.path = path

theorem Action.IsOwn.reportsFor_runAt {a : Action} (h : a.IsOwn) (v : Visit) :
    (a.runAt v).ReportsFor v.unit.path := by
  intro d hd
  obtain ⟨f, hf, rfl⟩ := List.mem_map.mp hd
  exact ⟨congrArg Descriptor.id (h v f hf), rfl⟩

namespace Registry

variable (r : Registry) (enabled : String → Bool) (u : SourceUnit)

/-- The runs of the enabled rules at a node are a part of all runs there. -/
theorem runsAt_eq_filter (n : Node) :
    r.runsAt enabled u n = (r.runsAt (fun _ => true) u n).filter fun run => enabled run.ruleId := by
  have hall : ((r.actionsFor n.kind).filter fun _ => true) = r.actionsFor n.kind :=
    List.filter_eq_self.mpr fun _ _ => rfl
  simp only [runsAt, hall, List.filter_flatMap]
  congr 1
  funext pass
  rw [List.filter_map]
  rfl

/-- The runs of the enabled rules are a part of all runs. -/
theorem runsOver_eq_filter (nodes : List Node) :
    r.runsOver enabled u nodes =
      (r.runsOver (fun _ => true) u nodes).filter fun run => enabled run.ruleId := by
  rw [runsOver, runsOver, List.filter_flatMap]
  congr 1
  funext n
  exact runsAt_eq_filter r enabled u n

variable {r enabled u}

/-- A run at one of some nodes is that of an action of the registry. -/
theorem exists_action_of_mem_runsOver {nodes : List Node} {run : Run}
    (h : run ∈ r.runsOver enabled u nodes) :
    ∃ kind, ∃ a ∈ r.actionsFor kind, ∃ v : Visit,
      v.unit = u ∧ enabled a.descriptor.id = true ∧ run = a.runAt v := by
  obtain ⟨n, -, hn⟩ := List.mem_flatMap.mp h
  obtain ⟨pass, -, hpass⟩ := List.mem_flatMap.mp hn
  obtain ⟨a, ha, rfl⟩ := List.mem_map.mp hpass
  obtain ⟨ha, henabled⟩ := List.mem_filter.mp ha
  exact ⟨n.kind, a, ha, ⟨r.grammar, u, n, pass⟩, rfl, henabled, rfl⟩

/-- Runs belong to rules of their registry. -/
theorem mem_ids_of_mem_runsOver (hr : r.Owned) {nodes : List Node} {run : Run}
    (h : run ∈ r.runsOver enabled u nodes) : run.ruleId ∈ r.ids := by
  obtain ⟨kind, a, ha, v, -, -, rfl⟩ := exists_action_of_mem_runsOver h
  exact (hr kind a ha).2

theorem reportsFor_of_mem_runsOver (hr : r.Owned) {nodes : List Node} {run : Run}
    (h : run ∈ r.runsOver enabled u nodes) : run.ReportsFor u.path := by
  obtain ⟨kind, a, ha, v, rfl, -, rfl⟩ := exists_action_of_mem_runsOver h
  exact (hr kind a ha).1.reportsFor_runAt v

end Registry

/-- Choosing runs by their rules and choosing diagnostics by their rules is the same. -/
theorem flatMap_diagnostics_filter (p : String → Bool) (path : String) (runs : List Run) :
    (∀ run ∈ runs, run.ReportsFor path) →
    (runs.filter fun run => p run.ruleId).flatMap Run.diagnostics =
      (runs.flatMap Run.diagnostics).filter fun d => p d.ruleId := by
  induction runs with
  | nil =>
      intro _
      rfl
  | cons run runs ih =>
      intro h
      have hrun : ∀ d ∈ run.diagnostics, d.ruleId = run.ruleId :=
        fun d hd => (h run (by simp) d hd).1
      have hrest := ih fun other hother => h other (by simp [hother])
      rw [List.flatMap_cons, List.filter_append, ← hrest]
      by_cases hp : p run.ruleId = true
      · have hall : run.diagnostics.filter (fun d => p d.ruleId) = run.diagnostics :=
          List.filter_eq_self.mpr fun d hd => by rw [hrun d hd, hp]
        rw [List.filter_cons_of_pos (by exact hp), List.flatMap_cons, hall]
      · have hnone : run.diagnostics.filter (fun d => p d.ruleId) = [] :=
          List.filter_eq_nil_iff.mpr fun d hd => by rwa [hrun d hd]
        rw [List.filter_cons_of_neg (by exact hp), hnone, List.nil_append]

/-- The diagnostics of the enabled rules are those of all rules that belong to an enabled one. -/
theorem Registry.flatMap_diagnostics_runsOver {r : Registry} (hr : r.Owned)
    (enabled : String → Bool) (u : SourceUnit) (nodes : List Node) :
    (r.runsOver enabled u nodes).flatMap Run.diagnostics =
      ((r.runsOver (fun _ => true) u nodes).flatMap Run.diagnostics).filter
        fun d => enabled d.ruleId := by
  rw [r.runsOver_eq_filter enabled u nodes]
  exact flatMap_diagnostics_filter enabled u.path _ fun _ hrun =>
    Registry.reportsFor_of_mem_runsOver hr hrun

/-! ## Tallies of runs -/

theorem findingsOf_foldl_addTo (ruleId : String) (runs : List Run) :
    ∀ ts : Tallies,
      (∀ run ∈ runs, ∀ d ∈ run.diagnostics, d.ruleId = run.ruleId) →
      (runs.foldl (fun ts run => ts.addTo run.ruleId ⟨0, 1, run.diagnostics.length⟩)
          ts).findingsOf ruleId =
        ts.findingsOf ruleId +
          (runs.flatMap Run.diagnostics).countP fun d => d.ruleId == ruleId := by
  induction runs with
  | nil =>
      intro ts _
      simp
  | cons run runs ih =>
      intro ts h
      have hrun := h run (by simp)
      have hcount :
          (run.diagnostics.countP fun d => d.ruleId == ruleId) =
            if run.ruleId = ruleId then run.diagnostics.length else 0 := by
        by_cases hid : run.ruleId = ruleId
        · rw [if_pos hid]
          exact List.countP_eq_length.mpr fun d hd => by simp [hrun d hd, hid]
        · rw [if_neg hid]
          exact List.countP_eq_zero.mpr fun d hd => by simp [hrun d hd, hid]
      simp [ih _ fun other hother => h other (by simp [hother]), hcount, Nat.add_assoc]

/-- The tallies of runs count the diagnostics of each rule. -/
theorem findingsOf_tallyRuns (ruleId : String) {runs : List Run}
    (h : ∀ run ∈ runs, ∀ d ∈ run.diagnostics, d.ruleId = run.ruleId) :
    (tallyRuns runs).findingsOf ruleId =
      (runs.flatMap Run.diagnostics).countP fun d => d.ruleId == ruleId := by
  have hempty : Tallies.findingsOf ∅ ruleId = 0 := by
    simp [Tallies.findingsOf]
  simp [tallyRuns, findingsOf_foldl_addTo ruleId runs ∅ h, hempty]

end Rule
end TreeLint
