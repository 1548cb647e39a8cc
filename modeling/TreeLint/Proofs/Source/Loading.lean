import TreeLint.Proofs.Source.Building

/-!
# Loading documents

The text of a document gives a unit unless some node has both a text and children; then the first
such node is named. A unit that was loaded mirrors its document: its nodes are those of the document
in pre-order, and all that is known of a node is what the document says there, with the symbols
looked up in the document.

**Results.**
* `Document.toUnit_of_find?`: the unit of a document, or the node that is in the way.
* `SourceUnit.ofText_of_parse?`: the same for the text of a document.
-/

namespace TreeLint
namespace Source

open Symbols Syntax DocumentNode

/-- A node of a unit is as a document says at one of its nodes. -/
structure SourceUnit.NodeMirrors (u : SourceUnit) (d : Document) (x : DocumentNode) (n : Node) :
    Prop where
  kind : n.kind = x.fields.kind
  role : n.role = x.fields.role
  text : n.info.text = x.fields.text
  leading : n.info.leading = x.fields.leading
  trailing : n.info.trailing = x.fields.trailing
  reference : u.reference? n = x.fields.symbol.bind d.symbol?
  declared : u.declared? n = x.fields.declares.bind d.symbol?
  type : n.info.type = x.fields.type
  constant : n.info.constant = x.fields.constant
  children : n.children.map Node.id = x.childNumbers n.id

/-- The nodes of a unit are those of a document: numbered in pre-order, each as the document says,
and with the same children in the same order. -/
structure SourceUnit.Mirrors (u : SourceUnit) (d : Document) : Prop where
  ids : u.nodes.map Node.id = List.range d.root.preorder.length
  nodes : List.Forall₂ (u.NodeMirrors d) d.root.preorder u.nodes
  children : ∀ (i j : Nat) (x : DocumentNode) (n c : Node),
    d.root.preorder[i]? = some x → u.nodes[i]? = some n → n.children[j]? = some c →
      d.root.preorder[c.id]? = x.children[j]?

/-- A unit mirrors a document if its tree does, and its symbols are those of the document. -/
theorem SourceUnit.mirrors_of_tree {u : SourceUnit} {d : Document}
    (hsymbols : u.symbols = SymbolTable.ofList d.symbols)
    (h : DocumentNode.Mirrors 0 d.root u.tree) : u.Mirrors d := by
  have hlookup : u.symbols.get? = d.symbol? := by
    funext id
    rw [hsymbols, SymbolTable.get?_ofList, Document.symbol?]
  have hids : u.nodes.map Node.id = List.range d.root.preorder.length := by
    rw [List.range_eq_range']
    exact h.ids_walk []
  have hnodes : List.Forall₂ (u.NodeMirrors d) d.root.preorder u.nodes := by
    refine (h.walk []).imp ?_
    intro x n hn
    exact
      { kind := hn.shows.kind
        role := hn.shows.role
        text := hn.shows.text
        leading := hn.shows.leading
        trailing := hn.shows.trailing
        reference := by rw [reference?, hn.shows.reference, hlookup]
        declared := by rw [declared?, hn.shows.declared, hlookup]
        type := hn.shows.type
        constant := hn.shows.constant
        children := hn.children }
  refine ⟨hids, hnodes, ?_⟩
  intro i j x n c hx hn hc
  have hi : i < d.root.preorder.length := (List.getElem?_eq_some_iff.mp hx).1
  have hid : n.id = i := by
    have hplace : (u.nodes.map Node.id)[i]? = (List.range d.root.preorder.length)[i]? := by
      rw [hids]
    rw [List.getElem?_map, hn, List.getElem?_range hi] at hplace
    exact Option.some.inj hplace
  have hnode : u.NodeMirrors d x n := by
    obtain ⟨hiNodes, hget⟩ := List.getElem?_eq_some_iff.mp hn
    have hpair := hnodes.get hi hiNodes
    simpa [hget, (List.getElem?_eq_some_iff.mp hx).2] using hpair
  have hnumber : (x.childNumbers i)[j]? = some c.id := by
    rw [← hid, ← hnode.children, List.getElem?_map, hc]
    rfl
  exact getElem?_preorder_of_childNumbers hx hnumber

namespace Builder

theorem foldl_insertSymbol (symbols : List Symbol) :
    ∀ b : Builder, symbols.foldl insertSymbol b =
      { b with symbols := symbols.foldl SymbolTable.insert b.symbols } := by
  induction symbols with
  | nil =>
      intro b
      rfl
  | cons s symbols ih =>
      intro b
      exact ih (b.insertSymbol s)

end Builder

namespace Document

/-- A document starts with an empty builder that has its symbols. -/
theorem builder_eq (d : Document) (path : String) :
    d.builder path =
      { Builder.new (d.path.getD path) d.language d.generated d.testProject with
        symbols := SymbolTable.ofList d.symbols } :=
  Builder.foldl_insertSymbol d.symbols _

theorem steady_builder (d : Document) (path : String) : (d.builder path).Steady := by
  rw [builder_eq]
  refine ⟨rfl, rfl, ?_⟩
  intro i _
  simp [Builder.info, Builder.infoOf, Builder.new, Builder.blankEntry, Builder.blankInfo]

theorem hasRoom_builder (d : Document) (path : String) : (d.builder path).HasRoom := by
  rw [builder_eq]
  exact fun _ => rfl

/-- The unit of a document whose nodes were added: its tree is that of the one complete node. -/
theorem toUnit_of_adds {d : Document} {path : String} {c : Builder} {o : Outline}
    (hc : (d.builder path).add d.root = .ok c) (ho : Builder.Adds (d.builder path) d.root o c) :
    d.toUnit path =
      .ok ⟨c.path, c.language, c.generated, c.testProject, c.treeOf o, c.symbols⟩ := by
  have hopened : c.opened = [] := by
    rw [ho.opened, builder_eq]
    rfl
  have hroots : c.roots = [o] := by
    rw [ho.roots, builder_eq]
    rfl
  rw [toUnit, hc]
  dsimp only
  rw [Builder.finish, ho.steady.fault, hopened, hroots]
  rfl

/-- A document gives a unit that mirrors it, unless some node has both a text and children. -/
theorem toUnit_of_find? (d : Document) (path : String) :
    match d.root.preorder.find? isMixed with
    | some x => d.toUnit path = .error (.textWithChildren x.fields.kind)
    | none => ∃ u, d.toUnit path = .ok u ∧ u.Mirrors d := by
  have hadd := Builder.add_of_find? d.root (d.builder path)
  cases hfind : d.root.preorder.find? isMixed with
  | some x =>
      rw [hfind] at hadd
      rw [toUnit, hadd]
  | none =>
      rw [hfind] at hadd
      obtain ⟨c, hc⟩ := hadd
      obtain ⟨o, ho⟩ :=
        Builder.exists_adds (d.steady_builder path) (d.hasRoom_builder path) hc
      have hsymbols : c.symbols = SymbolTable.ofList d.symbols := by
        rw [ho.symbols, builder_eq]
      have hsize : (d.builder path).entries.size = 0 := by
        rw [builder_eq]
        rfl
      have hmirrors : DocumentNode.Mirrors 0 d.root (c.treeOf o) := by
        rw [← hsize]
        exact ho.mirrors
      exact ⟨_, toUnit_of_adds hc ho, SourceUnit.mirrors_of_tree hsymbols hmirrors⟩

end Document

namespace SourceUnit

/-- The text of a document gives a unit unless some node has both a text and children. The first
such node in pre-order is named in the error, and no other error comes from building the tree. A
unit that is given mirrors the document. -/
theorem ofText_of_parse? {text : String} {d : Document} (h : Document.parse? text = some d)
    (path : String) :
    ((∃ cause, ofText text path = .error cause) ↔ ∃ x ∈ d.root.preorder, x.isMixed = true) ∧
    (∀ x, d.root.preorder.find? isMixed = some x →
      ∃ cause, ofText text path = .error cause ∧ cause = .textWithChildren x.fields.kind ∧
        cause.message =
          "Invalid document: " ++ ("node '" ++ x.fields.kind ++ "' has both text and children")) ∧
    (∀ e, ofText text path ≠ .error (.shape e)) ∧
    ∀ u, ofText text path = .ok u → u.Mirrors d := by
  have htext : ofText text path = d.toUnit path := by
    rw [ofText, h]
  have hunit := d.toUnit_of_find? path
  rw [htext]
  cases hfind : d.root.preorder.find? isMixed with
  | some x =>
      rw [hfind] at hunit
      rw [hunit]
      refine ⟨⟨fun _ => ?_, fun _ => ⟨_, rfl⟩⟩, ?_, ?_, ?_⟩
      · exact ⟨x, List.mem_of_find?_eq_some hfind, List.find?_some hfind⟩
      · intro y hy
        cases hy
        exact ⟨_, rfl, rfl, rfl⟩
      · intro e he
        cases he
      · intro u hu
        cases hu
  | none =>
      rw [hfind] at hunit
      obtain ⟨u, hu, hmirrors⟩ := hunit
      rw [hu]
      refine ⟨⟨?_, ?_⟩, ?_, ?_, ?_⟩
      · rintro ⟨cause, hcause⟩
        cases hcause
      · rintro ⟨x, hx, hmixed⟩
        exact absurd hmixed (List.find?_eq_none.mp hfind x hx)
      · intro y hy
        cases hy
      · intro e he
        cases he
      · intro v hv
        cases hv
        exact hmirrors

set_option maxRecDepth 2048 in
/-- Of nodes within nodes, a comment in front of a token, a number that two symbols have, and a
number that no symbol has. -/
theorem ofText_of_parse?_nested :
    let text :=
      "\x7b\"language\":\"cs\",\"symbols\":[" ++
      "\x7b\"id\":1,\"name\":\"a\",\"kind\":\"field\"\x7d," ++
      "\x7b\"id\":1,\"name\":\"b\",\"kind\":\"local\"\x7d]," ++
      "\"root\":\x7b\"kind\":\"Unit\",\"children\":[" ++
      "\x7b\"kind\":\"Set\",\"children\":[" ++
      "\x7b\"kind\":\"Name\",\"text\":\"x\",\"symbol\":1,\"leading_trivia\":[" ++
      "\x7b\"kind\":\"single_line_comment\",\"text\":\"// x\"\x7d]\x7d," ++
      "\x7b\"kind\":\"Name\",\"text\":\"y\",\"symbol\":7\x7d]\x7d," ++
      "\x7b\"kind\":\"End\",\"text\":\";\",\"declares\":1\x7d]\x7d\x7d"
    let symbol (name : String) (kind : SymbolKind) : Symbol :=
      ⟨1, name, kind, none, none, false, false, false, none⟩
    let inner (kind : String) : DocumentFields :=
      ⟨kind, none, none, none, [], [], none, none, none, none⟩
    let name (text : String) (leading : List Trivia) (id : SymbolId) : DocumentFields :=
      ⟨"Name", none, some text, none, leading, [], some id, none, none, none⟩
    let d : Document :=
      ⟨none, .csharp, false, false, [symbol "a" .field, symbol "b" .local],
        .node (inner "Unit") [
          .node (inner "Set") [
            .node (name "x" [⟨.singleLineComment, "// x"⟩] 1) [],
            .node (name "y" [] 7) []],
          .node ⟨"End", none, some ";", none, [], [], none, some 1, none, none⟩ []]⟩
    Document.parse? text = some d ∧
      ∃ u, ofText text "A.cs.json" = .ok u ∧ u.Mirrors d ∧
        (u.nodes.map fun n => n.children.map Node.id) = [[1, 4], [2, 3], [], [], []] ∧
        (u.nodes.map fun n => n.info.leading.map Trivia.text) = [[], [], ["// x"], [], []] ∧
        (u.nodes.map fun n => (u.reference? n).map Symbol.name) =
          [none, none, some "b", none, none] ∧
        (u.nodes.map fun n => (u.declared? n).map Symbol.name) =
          [none, none, none, none, some "b"] := by
  intro text symbol inner name d
  let names : List Json.Value :=
    [.object [("kind", .string "Name"), ("text", .string "x"), ("symbol", .nat 1),
        ("leading_trivia",
          .array [.object [("kind", .string "single_line_comment"), ("text", .string "// x")]])],
      .object [("kind", .string "Name"), ("text", .string "y"), ("symbol", .nat 7)]]
  let below : List Json.Value :=
    [.object [("kind", .string "Set"), ("children", .array names)],
      .object [("kind", .string "End"), ("text", .string ";"), ("declares", .nat 1)]]
  let symbols : List Json.Value :=
    [.object [("id", .nat 1), ("name", .string "a"), ("kind", .string "field")],
      .object [("id", .nat 1), ("name", .string "b"), ("kind", .string "local")]]
  have hread : Json.read? text.toList = some (.object [("language", .string "cs"),
      ("symbols", .array symbols),
      ("root", .object [("kind", .string "Unit"), ("children", .array below)])]) := by
    simp only [text, String.toList_append]
    -- literals are taken apart by a lemma: evaluating them is slow
    repeat rw [String.toList_ofList]
    rfl
  have hparse : Document.parse? text = some d := by
    rw [Document.parse?, hread]
    rfl
  obtain ⟨herror, -, -, hok⟩ := ofText_of_parse? hparse "A.cs.json"
  have hplain : ∀ x ∈ d.root.preorder, x.isMixed = false := by
    simp [d, inner, name, preorder, preorderAll, isMixed, children, DocumentNode.fields]
  refine ⟨hparse, ?_⟩
  cases hunit : ofText text "A.cs.json" with
  | error cause =>
      obtain ⟨x, hx, hmixed⟩ := herror.mp ⟨cause, hunit⟩
      rw [hplain x hx] at hmixed
      cases hmixed
  | ok u =>
      have hseen : (d.toUnit "A.cs.json").toOption.map (fun v =>
          (v.nodes.map fun n => n.children.map Node.id,
            v.nodes.map fun n => n.info.leading.map Trivia.text,
            v.nodes.map fun n => (v.reference? n).map Symbol.name,
            v.nodes.map fun n => (v.declared? n).map Symbol.name)) =
          some ([[1, 4], [2, 3], [], [], []], [[], [], ["// x"], [], []],
            [none, none, some "b", none, none], [none, none, none, none, some "b"]) := by
        decide +kernel
      have hsame : d.toUnit "A.cs.json" = .ok u := by
        rw [← hunit, ofText, hparse]
      rw [hsame] at hseen
      obtain ⟨hchildren, hleading, hreference, hdeclared⟩ := by
        simpa only [Except.toOption, Option.map_some, Option.some.injEq, Prod.mk.injEq] using hseen
      exact ⟨u, rfl, hok u hunit, hchildren, hleading, hreference, hdeclared⟩

end SourceUnit
end Source
end TreeLint
