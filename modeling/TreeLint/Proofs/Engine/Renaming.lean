import Mathlib.Algebra.GroupWithZero.Nat
import Mathlib.Algebra.Order.BigOperators.Group.List
import Mathlib.Algebra.Order.Group.Nat
import Mathlib.Data.Set.Function
import TreeLint.Proofs.Engine.Retelling
import TreeLint.Proofs.Source.DocumentTree

/-!
# The numbers of symbols

The numbers of symbols only connect the parts of a unit with each other. If all numbers in a unit
are exchanged for others, in the table of symbols and in the nodes alike, and different numbers stay
different, then the unit tells the same as before, and analyses find the same. This holds for
numbers without a symbol too: none of them can be taken for the number of a symbol.

**Results.**
* `injective_extend`: a renaming of the numbers in a unit is part of one of all numbers.
* `SourceUnit.RenamedBy.get?`: what a renamed table says.
* `SourceUnit.RenamedBy.retells`: the renamed unit tells the same.
* `Engine.analyze_renamed`: analyses of renamed units.
-/

namespace TreeLint

open Report Rule Source Symbols Syntax

/-! ## Renamings -/

section Extension

variable {ids : List Nat} {ρ : Nat → Nat}

/-- A renaming of some numbers, extended to all numbers: the others go above the new ones. -/
def extend (ids : List Nat) (ρ : Nat → Nat) (id : Nat) : Nat :=
  if id ∈ ids then ρ id else (ids.map ρ).sum + 1 + id

theorem extend_of_mem {id : Nat} (h : id ∈ ids) : extend ids ρ id = ρ id :=
  if_pos h

theorem extend_le_sum (ρ : Nat → Nat) {id : Nat} (h : id ∈ ids) :
    extend ids ρ id ≤ (ids.map ρ).sum := by
  rw [extend_of_mem h]
  exact List.le_sum_of_mem (List.mem_map_of_mem h)

/-- Numbers that are kept apart by a renaming are kept apart by the extended one, and so are all
others. -/
theorem injective_extend (h : Set.InjOn ρ {id | id ∈ ids}) : Function.Injective (extend ids ρ) := by
  intro a b hab
  by_cases ha : a ∈ ids
  · have habove := extend_le_sum ρ ha
    by_cases hb : b ∈ ids
    · rw [extend_of_mem ha, extend_of_mem hb] at hab
      exact h ha hb hab
    · rw [hab, extend, if_neg hb] at habove
      omega
  · by_cases hb : b ∈ ids
    · have habove := extend_le_sum ρ hb
      rw [← hab, extend, if_neg ha] at habove
      omega
    · rw [extend, extend, if_neg ha, if_neg hb] at hab
      omega

end Extension

/-- A symbol with other numbers. -/
def Symbols.Symbol.renamed (ρ : SymbolId → SymbolId) (s : Symbol) : Symbol :=
  { s with id := ρ s.id, overridden := s.overridden.map ρ }

/-- What a node carries, with other numbers of symbols. -/
def Syntax.NodeInfo.renamed (ρ : SymbolId → SymbolId) (i : NodeInfo) : NodeInfo :=
  { i with reference := i.reference.map ρ, declared := i.declared.map ρ }

theorem Syntax.NodeInfo.keepsShape_renamed (ρ : SymbolId → SymbolId) :
    NodeInfo.KeepsShape (NodeInfo.renamed ρ) :=
  ⟨fun _ => rfl, fun _ => rfl, fun _ => rfl, fun _ => rfl, fun _ => rfl, fun _ => rfl⟩

theorem Symbols.Symbol.keepsMeaning_renamed {ρ : SymbolId → SymbolId} (h : Function.Injective ρ) :
    Symbol.KeepsMeaning (Symbol.renamed ρ) :=
  ⟨fun _ => rfl, fun _ => rfl, fun _ => rfl, fun _ => rfl, fun _ => rfl, fun _ _ => h.eq_iff⟩

/-! ## Renamed units -/

namespace Source.SourceUnit

/-- The numbers that a symbol under a number of the table comes with. -/
def idsOfEntry (entry : SymbolId × Symbol) : List SymbolId :=
  entry.1 :: entry.2.id :: entry.2.overridden.toList

/-- The numbers of symbols that a node carries. -/
def idsOfNode (n : Node) : List SymbolId :=
  n.info.reference.toList ++ n.info.declared.toList

/-- All numbers of symbols that occur in a unit, those without a symbol included. -/
def symbolIds (u : SourceUnit) : List SymbolId :=
  u.symbols.byId.toList.flatMap idsOfEntry ++ u.nodes.flatMap idsOfNode

/-- The second unit is the first one with other numbers of symbols. -/
structure RenamedBy (ρ : SymbolId → SymbolId) (u v : SourceUnit) : Prop where
  path : v.path = u.path
  language : v.language = u.language
  generated : v.generated = u.generated
  testProject : v.testProject = u.testProject
  tree : v.tree = u.tree.mapInfo (NodeInfo.renamed ρ)
  symbols : ∀ id s, v.symbols.get? id = some s ↔
    ∃ old t, u.symbols.get? old = some t ∧ id = ρ old ∧ s = t.renamed ρ

/-- The second unit is the first one with other numbers of symbols, where different numbers stay
different. -/
def Renamed (u v : SourceUnit) : Prop :=
  ∃ ρ, Set.InjOn ρ {id | id ∈ u.symbolIds} ∧ RenamedBy ρ u v

variable {u v : SourceUnit} {ρ σ : SymbolId → SymbolId}

theorem mem_symbolIds_of_get? {id i : SymbolId} {s : Symbol} (h : u.symbols.get? id = some s)
    (hi : i ∈ idsOfEntry (id, s)) : i ∈ u.symbolIds := by
  have hentry : (id, s) ∈ u.symbols.byId.toList := Std.TreeMap.mem_toList_iff_getElem?_eq_some.mpr h
  exact List.mem_append_left _ (List.mem_flatMap.mpr ⟨(id, s), hentry, hi⟩)

theorem mem_symbolIds_of_mem_nodes {n : Node} {i : SymbolId} (h : n ∈ u.nodes)
    (hi : i ∈ idsOfNode n) : i ∈ u.symbolIds :=
  List.mem_append_right _ (List.mem_flatMap.mpr ⟨n, h, hi⟩)

/-- Renamings that agree on the numbers in a unit give the same units. -/
theorem RenamedBy.congr (h : RenamedBy ρ u v) (hsame : ∀ id ∈ u.symbolIds, ρ id = σ id) :
    RenamedBy σ u v :=
  { h with
    tree := by
      rw [h.tree]
      refine Tree.mapInfo_congr fun n (hn : n ∈ u.nodes) => ?_
      have hreference : n.info.reference.map ρ = n.info.reference.map σ :=
        Option.map_congr fun i hi =>
          hsame i (mem_symbolIds_of_mem_nodes hn (by simp [idsOfNode, hi]))
      have hdeclared : n.info.declared.map ρ = n.info.declared.map σ :=
        Option.map_congr fun i hi =>
          hsame i (mem_symbolIds_of_mem_nodes hn (by simp [idsOfNode, hi]))
      rw [NodeInfo.renamed, NodeInfo.renamed, hreference, hdeclared]
    symbols := by
      intro id s
      rw [h.symbols]
      have hsame : ∀ old t, u.symbols.get? old = some t →
          ρ old = σ old ∧ t.renamed ρ = t.renamed σ := by
        intro old t ht
        have hids : ∀ i ∈ idsOfEntry (old, t), ρ i = σ i :=
          fun i hi => hsame i (mem_symbolIds_of_get? ht hi)
        have hoverridden : t.overridden.map ρ = t.overridden.map σ :=
          Option.map_congr fun i hi => hids i (by simp [idsOfEntry, hi])
        refine ⟨hids old (by simp [idsOfEntry]), ?_⟩
        rw [Symbol.renamed, Symbol.renamed, hids t.id (by simp [idsOfEntry]), hoverridden]
      constructor
      · rintro ⟨old, t, ht, rfl, rfl⟩
        exact ⟨old, t, ht, (hsame old t ht).1, (hsame old t ht).2⟩
      · rintro ⟨old, t, ht, rfl, rfl⟩
        exact ⟨old, t, ht, (hsame old t ht).1.symm, (hsame old t ht).2.symm⟩ }

/-- A renamed table has the renamed symbols under the renamed numbers, and no others. -/
theorem RenamedBy.get? (h : RenamedBy ρ u v) (hρ : Function.Injective ρ) (id : SymbolId) :
    v.symbols.get? (ρ id) = (u.symbols.get? id).map (Symbol.renamed ρ) := by
  ext s
  rw [h.symbols, Option.map_eq_some_iff]
  constructor
  · rintro ⟨old, t, ht, hid, rfl⟩
    rw [hρ hid]
    exact ⟨t, ht, rfl⟩
  · rintro ⟨t, ht, rfl⟩
    exact ⟨id, t, ht, rfl, rfl⟩

/-- A renamed unit tells the same. -/
theorem RenamedBy.retells (h : RenamedBy ρ u v) (hρ : Function.Injective ρ) :
    SourceUnit.Retells (NodeInfo.renamed ρ) (Symbol.renamed ρ) u v :=
  have hbind : ∀ o : Option SymbolId,
      (o.map ρ).bind v.symbols.get? = (o.bind u.symbols.get?).map (Symbol.renamed ρ) := by
    intro o
    cases o with
    | none => rfl
    | some id => exact h.get? hρ id
  { h with
    keepsShape := NodeInfo.keepsShape_renamed ρ
    text := fun _ => rfl
    keepsMeaning := Symbol.keepsMeaning_renamed hρ
    reference? := by
      intro n
      rw [SourceUnit.reference?, Node.info_mapInfo]
      exact hbind n.info.reference
    declared? := by
      intro n
      rw [SourceUnit.declared?, Node.info_mapInfo]
      exact hbind n.info.declared
    overridden? := fun s => hbind s.overridden }

/-- A renamed unit tells the same, since its renaming can be extended to all numbers. -/
theorem Renamed.exists_retells (h : Renamed u v) :
    ∃ σ, SourceUnit.Retells (NodeInfo.renamed σ) (Symbol.renamed σ) u v := by
  obtain ⟨ρ, hρ, hrenamed⟩ := h
  have hsame : ∀ id ∈ u.symbolIds, ρ id = extend u.symbolIds ρ id :=
    fun id hid => (extend_of_mem hid).symm
  exact ⟨extend u.symbolIds ρ, (hrenamed.congr hsame).retells (injective_extend hρ)⟩

end Source.SourceUnit

/-! ## Analyses -/

namespace Engine

theorem analyzeUnit_of_renamed (e : Engine) {u v : SourceUnit} (h : u.Renamed v) :
    e.analyzeUnit v = e.analyzeUnit u := by
  obtain ⟨σ, hr⟩ := h.exists_retells
  apply e.analyzeUnit_eq_of_runs hr.path hr.language hr.generated
  · rw [nodes_of_retells hr.toRetellsShape, List.length_map]
  · intro enabled
    rw [Registry.runs, Registry.runs, nodes_of_retells hr.toRetellsShape]
    apply Registry.runsOver_of_follows hr.toRetellsShape
    intro kind a ha _
    rcases follows_of_mem_actionsFor hr.toRetellsNodes ha with rfl | ⟨-, hfollows⟩
    · exact EmptyMethod.follows_run hr.toRetellsNodes hr.testProject (fun _ => rfl) _
    · exact hfollows _

/-- An analysis does not depend on the numbers of symbols, as long as different ones stay
different. -/
theorem analyze_renamed (e : Engine) {us vs : List SourceUnit}
    (h : List.Forall₂ SourceUnit.Renamed us vs) : e.analyze us = e.analyze vs :=
  e.analyze_congr (h.imp fun _ _ hunit => (e.analyzeUnit_of_renamed hunit).symm)

/-- Of the standard engine and one method that overrides a member without a symbol, before and after
all numbers are exchanged for their successors. -/
theorem analyze_renamed_override :
    let e : Engine := ⟨Config.standard, Settings.standard, Glob.isMatch, false⟩
    let unit (own other : SymbolId) : SourceUnit :=
      let info : NodeInfo := ⟨0, "MethodDeclaration", none, none, ⟨⟨1, 1⟩, ⟨1, 2⟩⟩, [], [], none,
        some own, none, none⟩
      let symbol : Symbol := ⟨own, "F", .method, none, none, false, false, true, some other⟩
      ⟨"Override.cs", .csharp, false, false, .node info [], SymbolTable.empty.insert symbol⟩
    List.Forall₂ SourceUnit.Renamed [unit 1 5] [unit 2 6] ∧
      e.analyze [unit 1 5] = e.analyze [unit 2 6] := by
  intro e unit
  have hrenamed : SourceUnit.RenamedBy Nat.succ (unit 1 5) (unit 2 6) := by
    refine ⟨rfl, rfl, rfl, rfl, rfl, ?_⟩
    intro id s
    have hempty : ∀ i, SymbolTable.empty.get? i = none := by
      intro i
      simp [SymbolTable.empty, SymbolTable.get?]
    simp only [unit, SymbolTable.get?_insert, hempty]
    constructor
    · intro h
      split at h
      · rename_i hid
        cases h
        exact ⟨1, _, rfl, hid.symm, rfl⟩
      · cases h
    · rintro ⟨old, t, ht, rfl, rfl⟩
      split at ht
      · rename_i hold
        subst hold
        cases ht
        rfl
      · cases ht
  have h : List.Forall₂ SourceUnit.Renamed [unit 1 5] [unit 2 6] :=
    .cons ⟨Nat.succ, Nat.succ_injective.injOn, hrenamed⟩ .nil
  exact ⟨h, analyze_renamed e h⟩

end Engine
end TreeLint
