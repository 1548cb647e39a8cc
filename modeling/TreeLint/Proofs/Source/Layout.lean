import TreeLint.Proofs.Source.Frontier
import TreeLint.Proofs.Syntax.Covering

/-!
# Spans that are made up

No call moves the cursor back, and a token moves it forward. The complete nodes that have no
complete parent stand in a row that the cursor has passed. A token joins the row at the cursor, and
a node that is closed takes the place of its children, over which its span runs. So each span that
is made up runs forward over those of the children, which come one after another.

**Results.**
* `Builder.cursor_le_perform`: no call moves the cursor back.
* `Builder.InOrder.perform`: what a call does to spans in order.
* `Builder.finish_spansInOrder`: the spans of a unit for which none was given.
-/

namespace TreeLint
namespace Source

open Syntax

/-- The spans of a unit are in order: each runs forward over those of the children, which come one
after another, and of two tokens the one that was made first stops before the other one starts. -/
structure SourceUnit.SpansInOrder (u : SourceUnit) : Prop where
  nodes : ∀ n ∈ u.nodes, n.span.Frames (n.children.map Node.span)
  tokens : ∀ m ∈ u.nodes, ∀ n ∈ u.nodes, m.info.text ≠ none → n.info.text ≠ none →
    m.id < n.id → m.span.stop < n.span.start

namespace Outline

variable {f g : NodeId → Span}

/-- Every node of an outline has a span that runs forward over those of its children. -/
inductive Framed (span : NodeId → Span) : Outline → Prop
  | node {id : NodeId} {os : List Outline}
      (hspan : (span id).Frames (os.map fun o => span o.id))
      (below : ∀ o ∈ os, Framed span o) : Framed span (.node id os)

theorem Framed.congr {o : Outline} (h : o.Framed f) (hfg : ∀ i ∈ o.ids, g i = f i) :
    o.Framed g := by
  induction h with
  | @node id os hspan _ ih =>
      rw [ids_node] at hfg
      have hbelow : ∀ o ∈ os, ∀ i ∈ o.ids, g i = f i := fun o ho i hi =>
        hfg i (List.mem_cons_of_mem _ (List.mem_flatMap.mpr ⟨o, ho, hi⟩))
      refine .node ?_ fun o ho => ih o ho (hbelow o ho)
      rw [hfg id List.mem_cons_self,
        List.map_congr_left fun o ho => hbelow o ho o.id o.id_mem_ids]
      exact hspan

/-- Outlines with framed nodes stand in a row that a position has passed. -/
structure Laid (span : NodeId → Span) (p : Position) (os : List Outline) : Prop where
  nodes : ∀ o ∈ os, o.Framed span
  row : Span.InRow (os.map fun o => span o.id)
  passed : ∀ o ∈ os, (span o.id).stop ≤ p

namespace Laid

variable {p q : Position} {os : List Outline}

theorem congr (h : Laid f p os) (hfg : ∀ o ∈ os, ∀ i ∈ o.ids, g i = f i) (hpq : p ≤ q) :
    Laid g q os where
  nodes := fun o ho => (h.nodes o ho).congr (hfg o ho)
  row := by
    rw [List.map_congr_left fun o ho => hfg o ho o.id o.id_mem_ids]
    exact h.row
  passed := by
    intro o ho
    rw [hfg o ho o.id o.id_mem_ids]
    exact (h.passed o ho).trans hpq

theorem concat (h : Laid f p os) {o : Outline} (ho : o.Framed f)
    (hbehind : ∀ a ∈ os, (f a.id).stop ≤ (f o.id).start) (hforward : (f o.id).start ≤ (f o.id).stop)
    (hpassed : (f o.id).stop ≤ p) : Laid f p (os ++ [o]) where
  nodes := by
    intro a ha
    rcases List.mem_append.mp ha with ha | ha
    · exact h.nodes a ha
    · rw [List.mem_singleton.mp ha]
      exact ho
  row := by
    rw [List.map_append, List.map_singleton]
    refine h.row.concat hforward ?_
    intro s hs
    obtain ⟨a, ha, rfl⟩ := List.mem_map.mp hs
    exact hbehind a ha
  passed := by
    intro a ha
    rcases List.mem_append.mp ha with ha | ha
    · exact h.passed a ha
    · rw [List.mem_singleton.mp ha]
      exact hpassed

theorem left {front back : List Outline} (h : Laid f p (front ++ back)) : Laid f p front where
  nodes := fun o ho => h.nodes o (List.mem_append_left _ ho)
  row := by
    have hrow := h.row
    rw [List.map_append] at hrow
    exact hrow.left
  passed := fun o ho => h.passed o (List.mem_append_left _ ho)

end Laid
end Outline

/-- What the layout needs of an entry. -/
def Entry.place (e : Entry) : Option String × Span × Bool :=
  (e.text, e.span, e.spanGiven)

namespace Builder

variable {b c : Builder}

/-! ## The cursor -/

theorem lt_afterToken (p : Position) : p < afterToken p :=
  Position.lt_iff.mpr (.inr ⟨rfl, Nat.lt_succ_self _⟩)

/-- No call moves the cursor back. -/
theorem cursor_le_perform (b : Builder) (call : Call) : b.cursor ≤ (b.perform call).cursor := by
  cases call with
  | start kind role =>
      simp [perform]
  | token kind text role =>
      simpa [perform] using (b.cursor.le_after text.toList).trans (lt_afterToken _).le
  | close =>
      simp [perform]
  | leading t => exact b.cursor.le_after t.text.toList
  | trailing t =>
      rw [perform, trailing]
      cases b.lastToken <;> exact b.cursor.le_after t.text.toList
  | newline => exact Position.le_iff.mpr (.inl (Nat.lt_succ_self _))
  | _ => exact le_refl _

/-! ## Calls that keep places -/

def spanAt (b : Builder) (id : NodeId) : Span :=
  (b.entryAt id).span

/-- From one builder to another no node is made complete or gets another span. -/
structure KeepsPlaces (b c : Builder) : Prop where
  frontier : c.frontier = b.frontier
  place : ∀ i, (c.entryAt i).place = (b.entryAt i).place

theorem keepsPlaces_modify (b : Builder) (id : NodeId) {change : Entry → Entry}
    (h : ∀ e, (change e).place = e.place) :
    KeepsPlaces b { b with entries := b.entries.modify id change } where
  frontier := rfl
  place := by
    intro i
    rw [entryAt_modify]
    split
    · exact h _
    · rfl

/-- A node that is opened looks like one that is not there. -/
theorem keepsPlaces_start (b : Builder) (kind : String) (role : Option String) :
    KeepsPlaces b (b.start kind role) where
  frontier := frontier_start b kind role
  place := by
    intro i
    rw [entryAt_of_push (entries_start b kind role)]
    split
    · rename_i hi
      rw [entryAt_of_le (Nat.le_of_eq hi.symm)]
      rfl
    · rfl

theorem keepsPlaces_perform (b : Builder) {call : Call} (h : call.isStructural = false)
    (hspan : ∀ id s, call ≠ .setSpan id s) : KeepsPlaces b (b.perform call) := by
  cases call with
  | start kind role => simp [Call.isStructural] at h
  | token kind text role => simp [Call.isStructural] at h
  | close => simp [Call.isStructural] at h
  | setSpan id s => exact absurd rfl (hspan id s)
  | trailing t =>
      rw [perform, trailing]
      cases b.lastToken with
      | none => exact ⟨rfl, fun _ => rfl⟩
      | some token =>
          have hkeeps : KeepsPlaces (b.advance t.text) ((b.advance t.text).addTrailing token t) :=
            keepsPlaces_modify _ token fun _ => rfl
          exact ⟨hkeeps.frontier, hkeeps.place⟩
  | addLeading id t => exact keepsPlaces_modify b id fun _ => rfl
  | addTrailing id t => exact keepsPlaces_modify b id fun _ => rfl
  | _ => exact ⟨rfl, fun _ => rfl⟩

/-! ## Tokens -/

/-- Tokens stand one behind the other, and all of them in front of a position. -/
structure TokensApart (entry : NodeId → Entry) (p : Position) : Prop where
  apart : ∀ i j : NodeId, i < j → (entry i).text ≠ none → (entry j).text ≠ none →
    (entry i).span.stop < (entry j).span.start
  passed : ∀ i : NodeId, (entry i).text ≠ none → (entry i).span.stop < p

namespace TokensApart

/-- No token is new, and none has another span. -/
theorem of_same {entry other : NodeId → Entry} {p q : Position} (h : TokensApart entry p)
    (hsame : ∀ i, (other i).text ≠ none → (entry i).text ≠ none ∧ (other i).span = (entry i).span)
    (hpq : p ≤ q) : TokensApart other q where
  apart := by
    intro i j hij hi hj
    obtain ⟨hfirst, hi⟩ := hsame i hi
    obtain ⟨hsecond, hj⟩ := hsame j hj
    rw [hi, hj]
    exact h.apart i j hij hfirst hsecond
  passed := by
    intro i hi
    obtain ⟨htext, hi⟩ := hsame i hi
    rw [hi]
    exact (h.passed i htext).trans_le hpq

/-- A token starts at the cursor and moves it. -/
theorem token (h : TokensApart b.entryAt b.cursor) (kind text : String) (role : Option String) :
    TokensApart (b.token kind text role).entryAt (b.token kind text role).cursor := by
  have hentry := entryAt_of_push (entries_token b kind text role)
  have hcursor : b.cursor.after text.toList < (b.token kind text role).cursor := by
    simpa using lt_afterToken _
  have hle := b.cursor.le_after text.toList
  constructor
  case apart =>
    intro i j hij hi hj
    rcases Nat.lt_trichotomy j b.nextNode with hlast | rfl | hbehind
    · rw [hentry, if_neg (Nat.ne_of_lt (hij.trans hlast))] at hi ⊢
      rw [hentry, if_neg (Nat.ne_of_lt hlast)] at hj ⊢
      exact h.apart i j hij hi hj
    · rw [hentry, if_neg (Nat.ne_of_lt hij)] at hi ⊢
      rw [hentry, if_pos rfl]
      exact h.passed i hi
    · -- there is no node behind the new one
      rw [hentry, if_neg (Nat.ne_of_gt hbehind), entryAt_of_le hbehind.le] at hj
      exact absurd rfl hj
  case passed =>
    intro i hi
    rw [hentry] at hi ⊢
    split at hi
    · rename_i hnext
      rw [if_pos hnext]
      exact hcursor
    · rename_i hnext
      rw [if_neg hnext]
      exact (h.passed i hi).trans (hle.trans_lt hcursor)

end TokensApart

/-! ## Spans in order -/

/-- The complete nodes are laid in a row that the cursor has passed, it stands behind all tokens,
and no span was given. -/
structure InOrder (b : Builder) : Prop where
  laid : Outline.Laid b.spanAt b.cursor b.frontier
  tokens : TokensApart b.entryAt b.cursor
  given : ∀ i : NodeId, (b.entryAt i).spanGiven = false

namespace InOrder

theorem keep (h : b.InOrder) (hkeeps : KeepsPlaces b c) (hcursor : b.cursor ≤ c.cursor) :
    c.InOrder := by
  have hspan : ∀ i, c.spanAt i = b.spanAt i := fun i => congrArg (·.2.1) (hkeeps.place i)
  have htext : ∀ i, (c.entryAt i).text = (b.entryAt i).text := fun i =>
    congrArg (·.1) (hkeeps.place i)
  constructor
  case laid =>
    rw [hkeeps.frontier]
    exact h.laid.congr (fun _ _ i _ => hspan i) hcursor
  case tokens => exact h.tokens.of_same (fun i hi => ⟨htext i ▸ hi, hspan i⟩) hcursor
  case given => exact fun i => (congrArg (·.2.2) (hkeeps.place i)).trans (h.given i)

/-- A token joins the row at the cursor. -/
theorem laid_token {d : Draft} (h : b.InOrder) (hd : Drafts d b) (kind text : String)
    (role : Option String) :
    Outline.Laid (b.token kind text role).spanAt (b.token kind text role).cursor
      (b.token kind text role).frontier := by
  have hentry := entryAt_of_push (entries_token b kind text role)
  have hle := b.cursor.le_after text.toList
  have hstop : b.cursor.after text.toList ≤ (b.token kind text role).cursor := by
    simpa using (lt_afterToken _).le
  rw [frontier_token]
  generalize b.token kind text role = c at *
  have hold : ∀ o ∈ b.frontier, ∀ i ∈ o.ids, c.spanAt i = b.spanAt i := by
    intro o ho i hi
    rw [spanAt, hentry, if_neg (Nat.ne_of_lt (hd.lt_of_mem_frontier ho hi)), spanAt]
  have hnew : c.spanAt (Outline.node b.nextNode []).id =
      ⟨b.cursor, b.cursor.after text.toList⟩ := by
    simp [Outline.id, spanAt, hentry]
  have hleaf : Outline.Framed c.spanAt (.node b.nextNode []) := by
    refine .node ⟨?_, List.Pairwise.nil, fun hne => absurd rfl hne⟩ ?_
    · rw [Outline.id] at hnew
      rw [hnew]
      exact hle
    · exact fun o ho => absurd ho List.not_mem_nil
  have hfront : Outline.Laid c.spanAt c.cursor b.frontier := h.laid.congr hold (hle.trans hstop)
  apply hfront.concat hleaf
  · intro a ha
    rw [hnew]
    exact (h.laid.congr hold (le_refl _)).passed a ha
  · rw [hnew]
    exact hle
  · rw [hnew]
    exact hstop

theorem token {d : Draft} (h : b.InOrder) (hd : Drafts d b) (kind text : String)
    (role : Option String) : (b.token kind text role).InOrder where
  laid := h.laid_token hd kind text role
  tokens := h.tokens.token kind text role
  given := by
    intro i
    rw [entryAt_of_push (entries_token b kind text role)]
    split
    · rfl
    · exact h.given i

section Close

variable {d : Draft} {n : OpenNode} {outer : List OpenNode}

/-- A node that is closed gets its span. -/
theorem entryAt_close (h : b.InOrder) (hd : Drafts d b) (hopened : b.opened = n :: outer)
    (i : NodeId) :
    b.close.entryAt i =
      if i = n.id then { b.entryAt n.id with span := b.closingSpan n.children.reverse }
      else b.entryAt i := by
  have hthere : n.id < b.nextNode := by
    apply hd.lt_of_mem_opened
    rw [hopened]
    exact List.mem_cons_self
  rw [entryAt_of_modify (entries_close hopened)]
  by_cases hi : i = n.id
  · rw [if_pos ⟨hi, hthere⟩, if_pos hi, hi, if_neg (Bool.eq_false_iff.mp (h.given n.id))]
  · rw [if_neg fun h => hi h.1, if_neg hi]

/-- A node that is closed takes the place of its children. -/
theorem laid_close (h : b.InOrder) (hd : Drafts d b) (hopened : b.opened = n :: outer) :
    Outline.Laid b.close.spanAt b.close.cursor b.close.frontier := by
  obtain ⟨hbefore, hafter⟩ := frontier_close hopened
  have hentry := h.entryAt_close hd hopened
  have hclosing : b.closingSpan n.children.reverse =
      (Span.coverAll? (n.children.reverse.map fun o => b.spanAt o.id)).getD
        (Span.point b.cursor) := by
    apply closingSpan_eq
    intro o ho
    refine hd.lt_of_mem_frontier ?_ o.id_mem_ids
    rw [hbefore]
    exact List.mem_append_right _ ho
  have hsame : ∀ o ∈ b.frontier, ∀ i ∈ o.ids, b.close.spanAt i = b.spanAt i := by
    intro o ho i hi
    have hn : n ∈ b.opened := by
      rw [hopened]
      exact List.mem_cons_self
    rw [spanAt, hentry, if_neg (hd.ne_of_mem_frontier hn ho hi), spanAt]
  rw [hafter, cursor_close]
  have hlaid := h.laid.congr hsame (le_refl _)
  rw [hbefore] at hsame hlaid
  generalize frontierOf b.roots outer = front at *
  generalize n.children.reverse = back at *
  generalize b.close = c at *
  have hrow := hlaid.row
  rw [List.map_append] at hrow
  have hpassed : ∀ s ∈ (front.map fun o => c.spanAt o.id) ++ back.map fun o => c.spanAt o.id,
      s.stop ≤ b.cursor := by
    rw [← List.map_append]
    exact List.forall_mem_map.mpr hlaid.passed
  have hspan : c.spanAt n.id =
      (Span.coverAll? (back.map fun o => c.spanAt o.id)).getD (Span.point b.cursor) := by
    rw [spanAt, hentry, if_pos rfl, List.map_congr_left fun o ho =>
      hsame o (List.mem_append_right _ ho) o.id o.id_mem_ids]
    exact hclosing
  obtain ⟨hframes, hbehind, hstop⟩ := hrow.frames hpassed hspan
  refine hlaid.left.concat ?_ (List.forall_mem_map.mp hbehind) hframes.forward hstop
  exact .node hframes fun o ho => hlaid.nodes o (List.mem_append_right _ ho)

theorem close (h : b.InOrder) (hd : Drafts d b) (hopened : b.opened = n :: outer)
    (htext : (b.entryAt n.id).text = none) : b.close.InOrder := by
  have hentry := h.entryAt_close hd hopened
  constructor
  case laid => exact h.laid_close hd hopened
  case tokens =>
    refine h.tokens.of_same (fun i hi => ?_) (cursor_close b).ge
    by_cases hclosed : i = n.id
    · rw [hentry, if_pos hclosed] at hi
      exact absurd htext hi
    · rw [hentry, if_neg hclosed] at hi ⊢
      exact ⟨hi, rfl⟩
  case given =>
    intro i
    rw [hentry]
    split
    · exact h.given n.id
    · exact h.given i

end Close

/-- What a call does, unless it gives a span. -/
theorem perform {d : Draft} (h : b.InOrder) (hd : Drafts d b)
    (hopen : ∀ n ∈ b.opened, (b.entryAt n.id).text = none) {call : Call}
    (hcall : ∀ id s, call ≠ .setSpan id s) : (b.perform call).InOrder := by
  cases call.effect with
  | start kind role => exact h.keep (keepsPlaces_start b kind role) (b.cursor_le_perform _)
  | token kind text role => exact h.token hd kind text role
  | close =>
      cases hopened : b.opened with
      | nil =>
          rw [Builder.perform, close_of_nil hopened]
          exact h.keep ⟨rfl, fun _ => rfl⟩ (le_refl _)
      | cons n outer =>
          refine h.close hd hopened (hopen n ?_)
          rw [hopened]
          exact List.mem_cons_self
  | other hother => exact h.keep (keepsPlaces_perform b hother hcall) (b.cursor_le_perform _)

end InOrder

/-! ## Sequences of calls -/

section

variable (path : String) (language : Language) (generated testProject : Bool)

theorem inOrder_new : (new path language generated testProject).InOrder := by
  have hblank : ∀ i, (new path language generated testProject).entryAt i = blankEntry := fun i =>
    entryAt_of_le (Nat.zero_le i)
  have hno : ∀ i, ¬((new path language generated testProject).entryAt i).text ≠ none := by
    intro i
    rw [hblank]
    exact fun h => h rfl
  constructor
  case laid =>
    exact ⟨fun _ h => absurd h List.not_mem_nil, Span.InRow.nil,
      fun _ h => absurd h List.not_mem_nil⟩
  case tokens => exact ⟨fun i _ _ hi => absurd hi (hno i), fun i hi => absurd hi (hno i)⟩
  case given =>
    intro i
    rw [hblank]
    rfl

/-- A node that is left open has no text. -/
theorem text_of_mem_opened (calls : List Call) {n : OpenNode}
    (hn : n ∈ ((new path language generated testProject).run calls).opened) :
    (((new path language generated testProject).run calls).entryAt n.id).text = none := by
  have hdrafts := drafts_run path language generated testProject calls
  have hmade := (tracks_run path language generated testProject calls).made
  have hmem : n.id ∈ (draftOf calls).opened := by
    rw [hdrafts.opened]
    exact List.mem_map_of_mem hn
  obtain ⟨node, hnode, hnone⟩ := (Draft.leafy_draftOf calls).opened n.id hmem
  rw [← hmade, made, List.getElem?_map, Array.getElem?_toList, Option.map_eq_some_iff] at hnode
  obtain ⟨e, he, rfl⟩ := hnode
  rw [entryAt, he]
  exact hnone

theorem inOrder_run {calls : List Call} (hcalls : ∀ id s, .setSpan id s ∉ calls) :
    ((new path language generated testProject).run calls).InOrder := by
  induction calls using List.reverseRecOn with
  | nil => exact inOrder_new path language generated testProject
  | append_singleton calls call ih =>
      have hbefore : ∀ id s, .setSpan id s ∉ calls := fun id s h =>
        hcalls id s (List.mem_append_left _ h)
      have hcall : ∀ id s, call ≠ .setSpan id s := fun id s h =>
        hcalls id s (List.mem_append_right _ (List.mem_singleton.mpr h.symm))
      simpa [run] using (ih hbefore).perform (drafts_run path language generated testProject calls)
        (fun n hn => text_of_mem_opened path language generated testProject calls hn) hcall

end

/-! ## The unit -/

theorem exists_of_mem_walkAll_treesOf {above : List Tree} {os : List Outline} {n : Node}
    (h : n ∈ Tree.walkAll above (b.treesOf os)) : ∃ o ∈ os, n ∈ (b.treeOf o).walk above := by
  induction os with
  | nil =>
      rw [treesOf] at h
      exact absurd h List.not_mem_nil
  | cons o os ih =>
      rw [treesOf, Tree.walkAll, List.mem_append] at h
      rcases h with h | h
      · exact ⟨o, List.mem_cons_self, h⟩
      · obtain ⟨a, ha, hn⟩ := ih h
        exact ⟨a, List.mem_cons_of_mem _ ha, hn⟩

theorem frames_of_mem_walk {o : Outline} (h : o.Framed b.spanAt) :
    ∀ above, ∀ n ∈ (b.treeOf o).walk above, n.span.Frames (n.children.map Node.span) := by
  induction h with
  | @node id os hspan _ ih =>
      intro above n hn
      rw [treeOf_node, Tree.walk, List.mem_cons] at hn
      rcases hn with rfl | hn
      · rw [Node.children, List.map_map]
        show (b.info id).span.Frames ((b.treesOf os).map fun t => t.info.span)
        rw [map_span_treesOf]
        exact hspan
      · obtain ⟨o, ho, hn⟩ := exists_of_mem_walkAll_treesOf hn
        exact ih o ho _ n hn

/-- If no call gives a span, the spans of the unit that is built are in order. -/
theorem finish_spansInOrder {path : String} {language : Language} {generated testProject : Bool}
    {calls : List Call} {u : SourceUnit}
    (h : ((new path language generated testProject).run calls).finish = .ok u)
    (hcalls : ∀ id s, .setSpan id s ∉ calls) : u.SpansInOrder := by
  have hrun := inOrder_run path language generated testProject hcalls
  constructor
  case nodes =>
    obtain ⟨root, htree, hopened, hroots⟩ :=
      exists_only_root_of_finish h (rooted_run path language generated testProject calls)
    generalize (new path language generated testProject).run calls = b at *
    have hnodes : u.nodes = (b.treeOf root).walk [] := by
      rw [← htree]
      rfl
    have hroot : root ∈ b.frontier := by
      rw [frontier, hopened, hroots]
      exact List.mem_singleton_self root
    rw [hnodes]
    exact frames_of_mem_walk (hrun.laid.nodes root hroot) []
  case tokens =>
    intro m hm n hn hmtext hntext hlt
    rw [info_of_mem_nodes h hm] at hmtext
    rw [info_of_mem_nodes h hn] at hntext
    rw [Node.span, Node.span, info_of_mem_nodes h hm, info_of_mem_nodes h hn]
    exact hrun.tokens.apart m.id n.id hlt hmtext hntext

/-- Of empty texts and nodes, and of lines that end in texts and in trivia. -/
theorem finish_spansInOrder_lines :
    let calls : List Call :=
      [.start "Block" none, .leading ⟨.endOfLine, "\n"⟩, .token "T" "a\nb" none,
        .trailing ⟨.whitespace, ""⟩, .start "Empty" none, .close, .token "T" "" none,
        .newline, .close]
    (∀ id s, .setSpan id s ∉ calls) ∧
      ∃ u, ((new "a.cs" .csharp false false).run calls).finish = .ok u ∧
        (u.nodes.map fun n => n.span.numbers) =
          [[2, 1, 3, 3], [2, 1, 3, 2], [3, 3, 3, 3], [3, 3, 3, 3]] ∧
        u.SpansInOrder := by
  intro calls
  have hcalls : ∀ id s, .setSpan id s ∉ calls := by simp [calls]
  exact ⟨hcalls, _, rfl, by decide +kernel, finish_spansInOrder rfl hcalls⟩

end Builder
end Source
end TreeLint
