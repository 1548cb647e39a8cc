import TreeLint.Proofs.Source.DocumentSpans
import TreeLint.Proofs.Source.Loading
import TreeLint.Proofs.Source.Numbering

/-!
# Spans of parsed documents

A node of a document is given its span after it is closed and before its parent is. So when a node
is closed, its children have the spans that they keep, and the cursor has been moved by the tokens
in front of it and nothing else. By induction over the document, every node has the span that the
document says it should have.

**Results.**
* `Builder.span_annotate`: a given span replaces the one that was made up.
* `Builder.exists_lays`: adding a node of a document lays out a tree as the document says.
* `SourceUnit.ofText_spannedBy`: the spans of a unit that was read from a text.
-/

namespace TreeLint
namespace Source

open Symbols Syntax DocumentNode

/-- The nodes of a unit have the spans that a document says they should have. -/
def SourceUnit.SpannedBy (u : SourceUnit) (d : Document) : Prop :=
  List.Forall₂ SpannedAt d.nodesWithCursor u.nodes

namespace Builder

variable {b c : Builder} {id : NodeId}

/-! ## Notes on a node -/

/-- From one builder to another neither the cursor nor the span of a node is changed, and nothing
that is recorded of other nodes. -/
structure KeepsSpan (id : NodeId) (b c : Builder) : Prop where
  cursor : c.cursor = b.cursor
  span : (c.info id).span = (b.info id).span
  entries : ∀ i : Nat, i ≠ id → c.entries[i]? = b.entries[i]?

theorem KeepsSpan.trans {d : Builder} (h : KeepsSpan id b c) (k : KeepsSpan id c d) :
    KeepsSpan id b d where
  cursor := k.cursor.trans h.cursor
  span := k.span.trans h.span
  entries := fun i hi => (k.entries i hi).trans (h.entries i hi)

theorem entries_modify_of_ne (b : Builder) (change : Entry → Entry) {i : Nat} (hi : i ≠ id) :
    (b.entries.modify id change)[i]? = b.entries[i]? := by
  rw [Array.getElem?_modify, if_neg (Ne.symm hi)]

theorem span_info_modify (b : Builder) (id : NodeId) (change : Entry → Entry) :
    (({ b with entries := b.entries.modify id change } : Builder).info id).span =
      ((b.entries[id]?.map change).getD blankEntry).span := by
  rw [info_modify, if_pos rfl]
  rfl

theorem keepsSpan_modify (b : Builder) {change : Entry → Entry}
    (h : ∀ e, (change e).span = e.span) :
    KeepsSpan id b { b with entries := b.entries.modify id change } where
  cursor := rfl
  span := by
    rw [span_info_modify, info]
    cases b.entries[id]? with
    | none => rfl
    | some e => exact h e
  entries := fun _ hi => entries_modify_of_ne b change hi

theorem keepsSpan_foldl {add : Builder → Trivia → Builder}
    (h : ∀ (b : Builder) (t : Trivia), KeepsSpan id b (add b t)) (ts : List Trivia) :
    ∀ b : Builder, KeepsSpan id b (ts.foldl add b) := by
  induction ts with
  | nil => exact fun b => ⟨rfl, rfl, fun _ _ => rfl⟩
  | cons t ts ih => exact fun b => (h b t).trans (ih (add b t))

theorem keepsSpan_elim {α : Type} {note : Builder → α → Builder}
    (h : ∀ (b : Builder) (a : α), KeepsSpan id b (note b a)) (fact : Option α) (b : Builder) :
    KeepsSpan id b (fact.elim b (note b)) := by
  cases fact with
  | none => exact ⟨rfl, rfl, fun _ _ => rfl⟩
  | some a => exact h b a

/-- What a document says about a node besides its span. -/
theorem keepsSpan_annotate (b : Builder) (id : NodeId) (f : DocumentFields) :
    KeepsSpan id (f.span.elim b fun s => b.setSpan id s) (b.annotate id f) := by
  have hleading : ∀ (b : Builder) (t : Trivia), KeepsSpan id b (b.addLeading id t) :=
    fun b _ => keepsSpan_modify b fun _ => rfl
  have htrailing : ∀ (b : Builder) (t : Trivia), KeepsSpan id b (b.addTrailing id t) :=
    fun b _ => keepsSpan_modify b fun _ => rfl
  have hbind : ∀ (b : Builder) (s : SymbolId), KeepsSpan id b (b.bind id s) :=
    fun _ _ => ⟨rfl, rfl, fun _ _ => rfl⟩
  have hdeclare : ∀ (b : Builder) (s : SymbolId), KeepsSpan id b (b.declare id s) :=
    fun _ _ => ⟨rfl, rfl, fun _ _ => rfl⟩
  have htype : ∀ (b : Builder) (t : String), KeepsSpan id b (b.setType id t) :=
    fun _ _ => ⟨rfl, rfl, fun _ _ => rfl⟩
  have hconstant : ∀ (b : Builder) (c : Constant), KeepsSpan id b (b.setConstant id c) :=
    fun _ _ => ⟨rfl, rfl, fun _ _ => rfl⟩
  have htrivia := (keepsSpan_foldl hleading f.leading (f.span.elim b fun s => b.setSpan id s)).trans
    (keepsSpan_foldl htrailing f.trailing _)
  have hsymbols := (htrivia.trans (keepsSpan_elim hbind f.symbol _)).trans
    (keepsSpan_elim hdeclare f.declares _)
  exact (hsymbols.trans (keepsSpan_elim htype f.type _)).trans
    (keepsSpan_elim hconstant f.constant _)

@[simp] theorem cursor_annotate (b : Builder) (id : NodeId) (f : DocumentFields) :
    (b.annotate id f).cursor = b.cursor := by
  rw [(keepsSpan_annotate b id f).cursor]
  cases f.span <;> rfl

theorem entries_annotate (b : Builder) (f : DocumentFields) {i : Nat} (hi : i ≠ id) :
    (b.annotate id f).entries[i]? = b.entries[i]? := by
  rw [(keepsSpan_annotate b id f).entries i hi]
  cases f.span with
  | none => rfl
  | some s => exact entries_modify_of_ne b _ hi

/-- A given span replaces the one that was made up. -/
theorem span_annotate (b : Builder) (f : DocumentFields) (hid : id < b.entries.size) :
    ((b.annotate id f).info id).span = f.span.getD (b.info id).span := by
  rw [(keepsSpan_annotate b id f).span]
  cases f.span with
  | none => rfl
  | some s =>
      rw [Option.elim_some, setSpan, span_info_modify, Array.getElem?_eq_getElem hid]
      rfl

/-! ## Adding nodes of a document -/

/-- A node of a document was added, and laid out from the cursor on; nothing that was recorded
before has changed. -/
structure Lays (b : Builder) (n : DocumentNode) (o : Outline) (c : Builder) : Prop
    extends Adds b n o c where
  cursor : c.cursor = behind b.cursor n.preorder
  entries : ∀ i : Nat, i < b.entries.size → c.entries[i]? = b.entries[i]?
  laidOut : LaidOut b.cursor n (c.treeOf o)

/-- Several nodes were added below an open one, and laid out. -/
structure LaysAll (b : Builder) (ns : List DocumentNode) (os : List Outline) (c : Builder) : Prop
    extends AddsAll b ns os c where
  cursor : c.cursor = behind b.cursor (preorderAll ns)
  entries : ∀ i : Nat, i < b.entries.size → c.entries[i]? = b.entries[i]?
  laidOut : LaidOutAll b.cursor ns (c.treesOf os)

theorem lays_token (hb : b.Steady) (hroom : b.HasRoom) {f : DocumentFields} {text : String}
    (htext : f.text = some text) :
    Lays b (.node f []) (.node b.entries.size [])
      ((b.token f.kind text f.role).annotate b.nextNode f) := by
  rw [nextNode]
  let d := b.token f.kind text f.role
  have hentries := entries_token b f.kind text f.role
  have hid : b.entries.size < d.entries.size := by
    show b.entries.size < (b.token f.kind text f.role).entries.size
    rw [hentries, Array.size_push]
    omega
  constructor
  case toAdds => exact adds_token hb hroom htext
  case cursor =>
    rw [cursor_annotate, cursor_token, preorder, preorderAll, behind, List.foldl_cons, moves]
    show _ = f.text.elim _ _
    rw [htext]
    rfl
  case entries =>
    intro i hi
    simp [entries_annotate _ _ (Nat.ne_of_lt hi), hentries, Array.getElem?_push_lt hi]
  case laidOut =>
    have hspan : (d.info b.entries.size).span = ⟨b.cursor, b.cursor.after text.toList⟩ := by
      show (d.entries[b.entries.size]?.getD blankEntry).span = _
      rw [show d.entries = _ from hentries, Array.getElem?_push_size]
      rfl
    rw [treeOf_node, treesOf]
    refine ⟨?_, trivial⟩
    rw [span_annotate _ _ hid]
    apply DocumentFields.hasSpan_getD
    intro hnone
    rw [show (b.token f.kind text f.role).info b.entries.size = d.info b.entries.size from rfl,
      hspan]
    exact .token hnone htext rfl

/-- The numbers of nodes that are numbered one after another stay below those behind them. -/
theorem lt_of_mem_numbersFrom {ns : List DocumentNode} {k i : Nat}
    (h : i ∈ numbersFrom k ns) : i < k + (preorderAll ns).length := by
  obtain ⟨j, hj⟩ := List.mem_iff_getElem?.mp h
  have hlength : j < ns.length := by
    rw [← length_numbersFrom ns k]
    exact (List.getElem?_eq_some_iff.mp hj).1
  obtain ⟨hle, hget⟩ := preorderAll_of_numbersFrom ns k j i hj
  rw [List.getElem?_eq_getElem hlength] at hget
  have hlt := (List.getElem?_eq_some_iff.mp hget).1
  omega

/-- The children of a node that is added are there before it is closed. -/
theorem AddsAll.id_lt {ns : List DocumentNode} {os : List Outline} (h : AddsAll b ns os c)
    {o : Outline} (ho : o ∈ os) : o.id < c.entries.size := by
  have hids : os.map Outline.id = numbersFrom b.entries.size ns := by
    rw [← map_id_treesOf c os]
    exact h.mirrors.ids
  rw [h.size]
  apply lt_of_mem_numbersFrom
  rw [← hids]
  exact List.mem_map_of_mem ho

/-- The span of a node that is closed below others of a document: it covers its children, or stands
where it was opened. -/
theorem LaysAll.closingSpan_treesOf {ns : List DocumentNode} {os : List Outline}
    (h : LaysAll b ns os c) :
    c.closingSpan os =
      (Span.coverAll? ((c.treesOf os).map fun t => t.info.span)).getD (Span.point b.cursor) := by
  rw [closingSpan_eq fun o ho => h.toAddsAll.id_lt ho, map_span_treesOf]
  cases os with
  | nil =>
      have hnone : ns = [] := by
        have hmirrors := h.mirrors
        rw [treesOf] at hmirrors
        cases ns with
        | nil => rfl
        | cons n ns => exact hmirrors.elim
      rw [h.cursor, hnone]
      rfl
  | cons o os =>
      simp [Span.coverAll?_cons]

theorem lays_interior (hb : b.Steady) (hroom : b.HasRoom) {f : DocumentFields}
    (htext : f.text = none) {cs : List DocumentNode} {os : List Outline}
    (h : LaysAll (b.start f.kind f.role) cs os c) :
    Lays b (.node f cs) (.node b.entries.size os) (c.close.annotate b.nextNode f) := by
  rw [nextNode]
  obtain ⟨hrecords, hstarted, -⟩ := records_start hb hroom f.kind f.role
  have hstart := hrecords.size
  have hbelow := h.size
  have hopened : c.opened = ⟨b.entries.size, os.reverse⟩ :: b.opened := by
    rw [h.opened _ _ hstarted, List.append_nil]
  have hentries := entries_close hopened
  rw [List.reverse_reverse] at hentries
  have hid : b.entries.size < c.close.entries.size := by
    rw [hentries, Array.size_modify]
    omega
  have hmoves : moves b.cursor (.node f cs) = b.cursor := by
    show f.text.elim _ _ = _
    rw [htext]
    rfl
  constructor
  case toAdds => exact adds_interior hb hroom htext h.toAddsAll
  case cursor =>
    simp [h.cursor, preorder, behind, hmoves]
  case entries =>
    intro i hi
    have hne : i ≠ b.entries.size := Nat.ne_of_lt hi
    simp [entries_annotate _ _ hne, hentries, entries_modify_of_ne _ _ hne, h.entries i (by omega),
      entries_start, Array.getElem?_push_lt hi]
  case laidOut =>
    have htrees : (c.close.annotate b.entries.size f).treesOf os = c.treesOf os := by
      apply treesOf_eq_of_mirrors h.mirrors
      intro i hle _
      have hne : i ≠ b.entries.size := by omega
      rw [(notes_annotate c.close b.entries.size f).touches.info i hne,
        (closes_close hopened).info i hne]
    have hspan : (c.close.info b.entries.size).span = c.closingSpan os := by
      -- nothing below the node has touched what was recorded when it was opened
      have hentry := h.entries b.entries.size (by omega)
      rw [entries_start, Array.getElem?_push_size] at hentry
      rw [info, hentries, Array.getElem?_modify, if_pos rfl, hentry]
      rfl
    rw [treeOf_node, htrees]
    refine ⟨?_, ?_⟩
    · rw [span_annotate _ _ hid, hspan, h.closingSpan_treesOf, cursor_start]
      exact DocumentFields.hasSpan_getD fun hnone => DocumentFields.hasSpan_closed hnone htext
    · rw [hmoves, ← cursor_start b f.kind f.role]
      exact h.laidOut

theorem LaysAll.nil (hb : b.Steady) : LaysAll b [] [] b := by
  refine ⟨AddsAll.nil hb, rfl, fun _ _ => rfl, ?_⟩
  rw [treesOf]
  trivial

/-- A node that is laid out below an open node, in front of others that are. -/
theorem LaysAll.cons {d : Builder} {n : DocumentNode} {ns : List DocumentNode} {o : Outline}
    {os : List Outline} {p : OpenNode} {rest : List OpenNode} (hopen : b.opened = p :: rest)
    (hfirst : Lays b n o c) (hrest : LaysAll c ns os d) : LaysAll b (n :: ns) (o :: os) d := by
  have hsize := hfirst.size
  constructor
  case toAddsAll => exact AddsAll.cons hopen hfirst.toAdds hrest.toAddsAll
  case cursor => rw [hrest.cursor, hfirst.cursor, preorderAll, behind_append]
  case entries =>
    intro i hi
    rw [hrest.entries i (by omega), hfirst.entries i hi]
  case laidOut =>
    rw [treesOf, treeOf_eq_of_mirrors (c := d) hfirst.mirrors]
    · refine ⟨hfirst.laidOut, ?_⟩
      rw [← hfirst.cursor]
      exact hrest.laidOut
    · intro i _ hlt
      exact hrest.info i (by omega)

mutual

/-- Adding a node of a document lays out a tree as the document says. -/
theorem exists_lays {n : DocumentNode} {b c : Builder} (hb : b.Steady) (hroom : b.HasRoom)
    (h : b.add n = .ok c) : ∃ o, Lays b n o c := by
  cases n with
  | node f cs =>
      cases htext : f.text with
      | some text =>
          cases cs with
          | nil =>
              rw [add_of_text htext] at h
              cases h
              exact ⟨_, lays_token hb hroom htext⟩
          | cons n ns =>
              rw [add_of_text_of_children htext] at h
              cases h
      | none =>
          cases hall : (b.start f.kind f.role).addAll cs with
          | error cause =>
              rw [add_of_addAll_error htext hall] at h
              cases h
          | ok d =>
              rw [add_of_addAll htext hall] at h
              cases h
              obtain ⟨hrecords, hstarted, -⟩ := records_start hb hroom f.kind f.role
              obtain ⟨os, hos⟩ := exists_laysAll hrecords.steady hstarted hall
              exact ⟨_, lays_interior hb hroom htext hos⟩

theorem exists_laysAll {ns : List DocumentNode} {b c : Builder} {p : OpenNode}
    {rest : List OpenNode} (hb : b.Steady) (hopen : b.opened = p :: rest)
    (h : b.addAll ns = .ok c) : ∃ os, LaysAll b ns os c := by
  cases ns with
  | nil =>
      rw [addAll] at h
      cases h
      exact ⟨[], LaysAll.nil hb⟩
  | cons n ns =>
      rw [addAll] at h
      cases hfirst : b.add n with
      | error cause =>
          rw [hfirst] at h
          cases h
      | ok d =>
          rw [hfirst] at h
          have hroom : b.HasRoom := by
            intro hnone
            rw [hopen] at hnone
            cases hnone
          obtain ⟨o, ho⟩ := exists_lays hb hroom hfirst
          have hstill : d.opened = { p with children := o :: p.children } :: rest := by
            rw [ho.opened, attach_of_cons hopen]
          obtain ⟨os, hos⟩ := exists_laysAll ho.steady hstill h
          exact ⟨o :: os, LaysAll.cons hopen ho hos⟩

end

end Builder

/-! ## Units of documents -/

namespace Document

/-- A document without a node that has both a text and children gives a unit with the spans that the
document says. -/
theorem toUnit_spannedBy {d : Document} (hplain : ∀ x ∈ d.root.preorder, x.isMixed = false)
    (path : String) : ∃ u, d.toUnit path = .ok u ∧ u.SpannedBy d := by
  have hfind : d.root.preorder.find? isMixed = none :=
    List.find?_eq_none.mpr fun x hx => by rw [hplain x hx]; exact Bool.false_ne_true
  have hadd := Builder.add_of_find? d.root (d.builder path)
  rw [hfind] at hadd
  obtain ⟨c, hc⟩ := hadd
  obtain ⟨o, ho⟩ := Builder.exists_lays (d.steady_builder path) (d.hasRoom_builder path) hc
  refine ⟨_, toUnit_of_adds hc ho.toAdds, ?_⟩
  have hcursor : (d.builder path).cursor = Position.start := by
    rw [builder_eq]
    rfl
  have hlaidOut := ho.laidOut
  rw [hcursor] at hlaidOut
  exact hlaidOut.walk []

theorem not_isMixed_of_toUnit {d : Document} {path : String} {u : SourceUnit}
    (h : d.toUnit path = .ok u) : ∀ x ∈ d.root.preorder, x.isMixed = false := by
  have hunit := d.toUnit_of_find? path
  cases hfind : d.root.preorder.find? isMixed with
  | some x =>
      rw [hfind, h] at hunit
      cases hunit
  | none => exact fun x hx => Bool.eq_false_iff.mpr (List.find?_eq_none.mp hfind x hx)

end Document

/-- Every node of a unit that was read from a text has the span that the document gives it; or else
a token spans its text from the cursor on, a node with children covers the spans that its children
have, in whatever order they are taken, and any other node has an empty span at the cursor. The
cursor meets the nodes of a document at positions that do not depend on spans: a document that
differs in spans only is read as well, and meets it at the same positions. -/
theorem SourceUnit.ofText_spannedBy {text path : String} {u : SourceUnit}
    (h : ofText text path = .ok u) :
    ∃ d, Document.parse? text = some d ∧ u.SpannedBy d ∧
      ∀ e : Document, e.withoutSpans = d.withoutSpans →
        e.cursors = d.cursors ∧ ∃ v, e.toUnit path = .ok v ∧ v.SpannedBy e := by
  cases hparse : Document.parse? text with
  | none =>
      rw [ofText, hparse] at h
      cases h
  | some d =>
      rw [ofText, hparse] at h
      have hplain := Document.not_isMixed_of_toUnit h
      obtain ⟨v, hv, hspanned⟩ := Document.toUnit_spannedBy hplain path
      obtain rfl : v = u := Except.ok.inj (hv.symm.trans h)
      refine ⟨d, rfl, hspanned, ?_⟩
      intro e hsame
      refine ⟨Document.cursors_of_withoutSpans_eq hsame, Document.toUnit_spannedBy ?_ path⟩
      have hnone : ¬∃ x ∈ d.root.preorder, x.isMixed = true := by
        rintro ⟨x, hx, hmixed⟩
        rw [hplain x hx] at hmixed
        cases hmixed
      rw [← d.exists_isMixed_iff_withoutSpans, ← hsame, e.exists_isMixed_iff_withoutSpans] at hnone
      exact fun x hx => Bool.eq_false_iff.mpr fun hmixed => hnone ⟨x, hx, hmixed⟩

/-- Of a token with a span that runs backward, and an empty node behind it. -/
theorem SourceUnit.ofText_spannedBy_backward :
    let text :=
      "\x7b\"language\":\"cs\",\"root\":\x7b\"kind\":\"B\",\"children\":[" ++
      "\x7b\"kind\":\"T\",\"text\":\"x\",\"span\":[9,9,5,3]\x7d,\x7b\"kind\":\"N\"\x7d]\x7d\x7d"
    let fields (kind : String) (text : Option String) (span : Option Span) : DocumentFields :=
      ⟨kind, none, text, span, [], [], none, none, none, none⟩
    let d : Document := ⟨none, .csharp, false, false, [], .node (fields "B" none none)
      [.node (fields "T" (some "x") (some ⟨⟨9, 9⟩, ⟨5, 3⟩⟩)) [], .node (fields "N" none none) []]⟩
    ∃ u, ofText text "A.cs.json" = .ok u ∧
      (u.nodes.map fun n => n.span.numbers) = [[1, 3, 5, 3], [9, 9, 5, 3], [1, 3, 1, 3]] ∧
      u.SpannedBy d ∧ d.withoutSpans.cursors = d.cursors := by
  intro text fields d
  let below : List Json.Value :=
    [.object [("kind", .string "T"), ("text", .string "x"),
        ("span", .array [.nat 9, .nat 9, .nat 5, .nat 3])],
      .object [("kind", .string "N")]]
  have hread : Json.read? text.toList = some (.object [("language", .string "cs"),
      ("root", .object [("kind", .string "B"), ("children", .array below)])]) := by
    dsimp only [text]
    rfl
  have hparse : Document.parse? text = some d := by
    rw [Document.parse?, hread]
    rfl
  have hplain : ∀ x ∈ d.root.preorder, x.isMixed = false := by
    simp [d, fields, preorder, preorderAll, isMixed, children, DocumentNode.fields]
  obtain ⟨u, hunit, -⟩ := Document.toUnit_spannedBy hplain "A.cs.json"
  have hnumbers :
      (d.toUnit "A.cs.json").toOption.map (fun v => v.nodes.map fun n => n.span.numbers) =
        some [[1, 3, 5, 3], [9, 9, 5, 3], [1, 3, 1, 3]] := by
    decide +kernel
  rw [hunit] at hnumbers
  have hu : ofText text "A.cs.json" = .ok u := by
    rw [ofText, hparse]
    exact hunit
  obtain ⟨e, he, hspanned, hcursors⟩ := ofText_spannedBy hu
  obtain rfl : d = e := Option.some.inj (hparse.symm.trans he)
  exact ⟨u, hu, Option.some.inj hnumbers, hspanned, (hcursors d.withoutSpans rfl).1⟩

end Source
end TreeLint
