import TreeLint.Proofs.Source.DocumentTree
import TreeLint.Proofs.Syntax.Covering

/-!
# Spans of the nodes of a document

A document gives spans to some of its nodes. The others get theirs from a cursor that is moved by
the texts of the tokens, or from their children. So each node is reached with the cursor at a
position that depends on the texts in front of it, and on nothing else that the document says.

**Results.**
* `DocumentNode.LaidOut.walk`: a walk through a tree that is laid out as a document says meets the
  nodes with the spans that they should have.
* `Document.cursors_of_withoutSpans_eq`: the positions of the cursor do not depend on spans.
-/

namespace TreeLint
namespace Source

open Syntax

/-- The span of a node that is reached with the cursor at a position, has given fields, and whose
children have given spans: its own one; or else that of its text; or else the one over its children,
which may be taken in any order; or else an empty one. -/
inductive DocumentFields.HasSpan (f : DocumentFields) (p : Position) (below : List Span) :
    Span → Prop
  | given {s : Span} (h : f.span = some s) : f.HasSpan p below s
  | token {text : String} (h : f.span = none) (htext : f.text = some text) (hleaf : below = []) :
      f.HasSpan p below ⟨p, p.after text.toList⟩
  | cover {s : Span} (h : f.span = none) (htext : f.text = none) (hinner : below ≠ [])
      (hs : ∀ order : List Span, order.Perm below → Span.coverAll? order = some s) :
      f.HasSpan p below s
  | empty (h : f.span = none) (htext : f.text = none) (hleaf : below = []) :
      f.HasSpan p below (Span.point p)

/-- A given span, or else one made up. -/
theorem DocumentFields.hasSpan_getD {f : DocumentFields} {p : Position} {below : List Span}
    {s : Span} (h : f.span = none → f.HasSpan p below s) : f.HasSpan p below (f.span.getD s) := by
  cases hspan : f.span with
  | some given => exact .given hspan
  | none => exact h hspan

/-- A node without a text covers its children, or is empty. -/
theorem DocumentFields.hasSpan_closed {f : DocumentFields} {p : Position} {below : List Span}
    (h : f.span = none) (htext : f.text = none) :
    f.HasSpan p below ((Span.coverAll? below).getD (Span.point p)) := by
  cases below with
  | nil => exact .empty h htext rfl
  | cons s rest =>
      refine .cover h htext (List.cons_ne_nil s rest) ?_
      intro order horder
      rw [Span.coverAll?_perm horder, Span.coverAll?_cons]
      rfl

namespace DocumentNode

/-! ## The cursor -/

/-- The cursor after a node: a token takes its text and one more column. -/
def moves (p : Position) (x : DocumentNode) : Position :=
  x.fields.text.elim p fun text => Builder.afterToken (p.after text.toList)

/-- The cursor after nodes that are met one after another. -/
def behind (p : Position) (xs : List DocumentNode) : Position :=
  xs.foldl moves p

/-- Nodes that are met one after another, each with the position at which it meets the cursor. -/
def withCursor (p : Position) : List DocumentNode → List (Position × DocumentNode)
  | [] => []
  | x :: xs => (p, x) :: withCursor (moves p x) xs

@[simp] theorem behind_append (p : Position) (xs ys : List DocumentNode) :
    behind p (xs ++ ys) = behind (behind p xs) ys :=
  List.foldl_append

@[simp] theorem withCursor_append (xs ys : List DocumentNode) :
    ∀ p : Position, withCursor p (xs ++ ys) = withCursor p xs ++ withCursor (behind p xs) ys := by
  induction xs with
  | nil => exact fun _ => rfl
  | cons x xs ih => exact fun p => congrArg ((p, x) :: ·) (ih (moves p x))

/-! ## Trees that are laid out -/

mutual

/-- A tree has the spans that a document node should have which is reached with the cursor at a
position. -/
def LaidOut (p : Position) : DocumentNode → Tree → Prop
  | .node f cs, .node info ts =>
    f.HasSpan p (ts.map fun t => t.info.span) info.span ∧ LaidOutAll (moves p (.node f cs)) cs ts

def LaidOutAll (p : Position) : List DocumentNode → List Tree → Prop
  | [], [] => True
  | n :: ns, t :: ts => LaidOut p n t ∧ LaidOutAll (behind p n.preorder) ns ts
  | _, _ => False

end

/-- A node of a tree has the span that a node of a document should have. -/
def SpannedAt (a : Position × DocumentNode) (n : Node) : Prop :=
  a.2.fields.HasSpan a.1 (n.children.map Node.span) n.span

mutual

/-- A walk meets the nodes of the document with their spans. -/
theorem LaidOut.walk {p : Position} {n : DocumentNode} {t : Tree} (above : List Tree)
    (h : LaidOut p n t) : List.Forall₂ SpannedAt (withCursor p n.preorder) (t.walk above) := by
  cases n with
  | node f cs =>
      cases t with
      | node info ts =>
          obtain ⟨hspan, hchildren⟩ := h
          rw [preorder, Tree.walk]
          refine List.Forall₂.cons ?_ (hchildren.walk _)
          rw [SpannedAt, Node.children, List.map_map]
          exact hspan

theorem LaidOutAll.walk {p : Position} {ns : List DocumentNode} {ts : List Tree}
    (above : List Tree) (h : LaidOutAll p ns ts) :
    List.Forall₂ SpannedAt (withCursor p (preorderAll ns)) (Tree.walkAll above ts) := by
  cases ns with
  | nil =>
      cases ts with
      | nil => exact List.Forall₂.nil
      | cons t ts => exact h.elim
  | cons n ns =>
      cases ts with
      | nil => exact h.elim
      | cons t ts =>
          obtain ⟨hfirst, hrest⟩ := h
          simpa [preorderAll, Tree.walkAll]
            using List.rel_append (hfirst.walk above) (hrest.walk above)

end

/-! ## Documents without spans -/

mutual

/-- A node without the spans that the document gives at and below it. -/
def withoutSpans : DocumentNode → DocumentNode
  | .node f cs => .node { f with span := none } (withoutSpansAll cs)

def withoutSpansAll : List DocumentNode → List DocumentNode
  | [] => []
  | n :: ns => n.withoutSpans :: withoutSpansAll ns

end

mutual

@[simp] theorem preorder_withoutSpans (n : DocumentNode) :
    n.withoutSpans.preorder = n.preorder.map withoutSpans := by
  cases n with
  | node f cs => rw [withoutSpans, preorder, preorder, preorderAll_withoutSpansAll, List.map_cons,
      withoutSpans]

@[simp] theorem preorderAll_withoutSpansAll (ns : List DocumentNode) :
    preorderAll (withoutSpansAll ns) = (preorderAll ns).map withoutSpans := by
  cases ns with
  | nil => rfl
  | cons n ns =>
      rw [withoutSpansAll, preorderAll, preorderAll, preorder_withoutSpans,
        preorderAll_withoutSpansAll, List.map_append]

end

@[simp] theorem text_withoutSpans (n : DocumentNode) :
    n.withoutSpans.fields.text = n.fields.text := by
  cases n with
  | node f cs =>
      rw [withoutSpans]
      rfl

@[simp] theorem isMixed_withoutSpans (n : DocumentNode) : n.withoutSpans.isMixed = n.isMixed := by
  rw [isMixed, isMixed, text_withoutSpans]
  cases n with
  | node f cs =>
      rw [withoutSpans]
      cases cs <;> rfl

theorem map_fst_withCursor_withoutSpans (xs : List DocumentNode) :
    ∀ p : Position, (withCursor p (xs.map withoutSpans)).map Prod.fst =
      (withCursor p xs).map Prod.fst := by
  induction xs with
  | nil => exact fun _ => rfl
  | cons x xs ih =>
      intro p
      have hmoves : moves p x.withoutSpans = moves p x := by
        simp [moves]
      simp [withCursor, hmoves, ih]

end DocumentNode

namespace Document

/-- The nodes of a document in pre-order, each with the position at which it meets the cursor. -/
def nodesWithCursor (d : Document) : List (Position × DocumentNode) :=
  DocumentNode.withCursor Position.start d.root.preorder

/-- The positions at which the nodes of a document meet the cursor. -/
def cursors (d : Document) : List Position :=
  d.nodesWithCursor.map Prod.fst

/-- A document without the spans that it gives. -/
def withoutSpans (d : Document) : Document :=
  { d with root := d.root.withoutSpans }

@[simp] theorem cursors_withoutSpans (d : Document) : d.withoutSpans.cursors = d.cursors := by
  simp [cursors, nodesWithCursor, withoutSpans, DocumentNode.map_fst_withCursor_withoutSpans]

/-- Documents that differ in spans only meet the cursor at the same positions. -/
theorem cursors_of_withoutSpans_eq {d e : Document} (h : e.withoutSpans = d.withoutSpans) :
    e.cursors = d.cursors := by
  rw [← cursors_withoutSpans, h, cursors_withoutSpans]

theorem exists_isMixed_iff_withoutSpans (d : Document) :
    (∃ x ∈ d.withoutSpans.root.preorder, x.isMixed = true) ↔
      ∃ x ∈ d.root.preorder, x.isMixed = true := by
  rw [withoutSpans, DocumentNode.preorder_withoutSpans]
  simp only [List.mem_map, exists_exists_and_eq_and, DocumentNode.isMixed_withoutSpans]

end Document
end Source
end TreeLint
