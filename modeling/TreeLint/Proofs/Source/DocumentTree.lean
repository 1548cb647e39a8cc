import Mathlib.Data.List.Forall2
import Mathlib.Data.List.Induction
import TreeLint.Source.Document

/-!
# Documents and the trees that mirror them

The nodes of a document are numbered in pre-order. A tree mirrors a document node from a number on
if it has the same shape, its nodes carry these numbers, and each of them shows what the document
says about it; spans are left open, since they may be made up. A tree that mirrors a document lists
the nodes of the document when it is walked.

**Results.**
* `DocumentNode.getElem?_preorder_of_childNumbers`: the numbers of children are their places in
  pre-order.
* `DocumentNode.Mirrors.ids_walk`: a walk meets the numbers in order.
* `DocumentNode.Mirrors.walk`: and meets the nodes of the document.
* `Symbols.SymbolTable.get?_ofList`: of symbols with one number the last one counts.
-/

namespace TreeLint
namespace Source

open Symbols Syntax

namespace DocumentNode

def fields : DocumentNode → DocumentFields
  | .node f _ => f

def children : DocumentNode → List DocumentNode
  | .node _ cs => cs

/-- Whether a node has both a text and children. -/
def isMixed (n : DocumentNode) : Bool :=
  n.fields.text.isSome && !n.children.isEmpty

mutual

/-- A node and all nodes below it, in pre-order. -/
def preorder : DocumentNode → List DocumentNode
  | .node f cs => .node f cs :: preorderAll cs

def preorderAll : List DocumentNode → List DocumentNode
  | [] => []
  | n :: ns => n.preorder ++ preorderAll ns

end

/-- How many nodes there are at and below a node. -/
def size (n : DocumentNode) : Nat :=
  n.preorder.length

/-- The numbers of nodes that are numbered one after another, each with all that is below it. -/
def numbersFrom : NodeId → List DocumentNode → List NodeId
  | _, [] => []
  | k, n :: ns => k :: numbersFrom (k + n.size) ns

/-- The numbers of the children of a node that has a given number. -/
def childNumbers (k : NodeId) (n : DocumentNode) : List NodeId :=
  numbersFrom (k + 1) n.children

@[simp] theorem size_node (f : DocumentFields) (cs : List DocumentNode) :
    (DocumentNode.node f cs).size = 1 + (preorderAll cs).length := by
  rw [size, preorder, List.length_cons, Nat.add_comm]

@[simp] theorem length_preorderAll_cons (n : DocumentNode) (ns : List DocumentNode) :
    (preorderAll (n :: ns)).length = n.size + (preorderAll ns).length := by
  rw [preorderAll, List.length_append, size]

theorem preorderAll_of_numbersFrom (ns : List DocumentNode) :
    ∀ k j id : Nat, (numbersFrom k ns)[j]? = some id →
      k ≤ id ∧ (preorderAll ns)[id - k]? = ns[j]? := by
  induction ns with
  | nil =>
      intro k j id h
      simp [numbersFrom] at h
  | cons n ns ih =>
      intro k j id h
      cases j with
      | zero =>
          obtain rfl : k = id := by
            simpa [numbersFrom] using h
          cases n with
          | node f cs =>
              simp [preorderAll, preorder]
      | succ j =>
          have htail : (numbersFrom (k + n.size) ns)[j]? = some id := by
            simpa [numbersFrom] using h
          obtain ⟨hle, hget⟩ := ih (k + n.size) j id htail
          refine ⟨by omega, ?_⟩
          have hbehind : n.preorder.length ≤ id - k := by
            have hsize : n.size = n.preorder.length := rfl
            omega
          have hplace : id - k - n.preorder.length = id - (k + n.size) := by
            have hsize : n.size = n.preorder.length := rfl
            omega
          simp [preorderAll, List.getElem?_append_right hbehind, hplace, hget]

@[simp] theorem length_numbersFrom (ns : List DocumentNode) :
    ∀ k, (numbersFrom k ns).length = ns.length := by
  induction ns with
  | nil =>
      intro k
      rfl
  | cons n ns ih =>
      intro k
      simp [numbersFrom, ih]

mutual

/-- A node and all that is below it form a block of the pre-order. -/
theorem preorder_isPrefix_drop {n x : DocumentNode} {i : Nat} (h : n.preorder[i]? = some x) :
    x.preorder <+: n.preorder.drop i := by
  cases n with
  | node f cs =>
      cases i with
      | zero =>
          rw [preorder, List.getElem?_cons_zero] at h
          cases h
          exact List.prefix_refl _
      | succ i =>
          rw [preorder, List.getElem?_cons_succ] at h
          simpa [preorder] using preorderAll_isPrefix_drop h

theorem preorderAll_isPrefix_drop {ns : List DocumentNode} {x : DocumentNode} {i : Nat}
    (h : (preorderAll ns)[i]? = some x) : x.preorder <+: (preorderAll ns).drop i := by
  cases ns with
  | nil =>
      simp [preorderAll] at h
  | cons n ns =>
      rw [preorderAll] at h ⊢
      by_cases hi : i < n.preorder.length
      · rw [List.getElem?_append_left hi] at h
        rw [List.drop_append_of_le_length (by omega)]
        exact (preorder_isPrefix_drop h).trans (List.prefix_append _ _)
      · rw [List.getElem?_append_right (by omega)] at h
        rw [List.drop_append, List.drop_eq_nil_of_le (by omega), List.nil_append]
        exact preorderAll_isPrefix_drop h

end

/-- In pre-order, the numbers of the children of a node are the places of these children. -/
theorem getElem?_preorder_of_childNumbers {n x : DocumentNode} {i j id : Nat}
    (hx : n.preorder[i]? = some x) (hid : (x.childNumbers i)[j]? = some id) :
    n.preorder[id]? = x.children[j]? := by
  have hj : j < x.children.length := by
    have hlength : (x.childNumbers i).length = x.children.length :=
      length_numbersFrom _ _
    rw [← hlength]
    exact (List.getElem?_eq_some_iff.mp hid).1
  obtain ⟨hle, hget⟩ := preorderAll_of_numbersFrom x.children (i + 1) j id hid
  have hplace : x.preorder[id - i]? = x.children[j]? := by
    obtain ⟨m, rfl⟩ : ∃ m, id = i + 1 + m := ⟨id - (i + 1), by omega⟩
    have hbelow : i + 1 + m - i = m + 1 := by
      omega
    rw [Nat.add_sub_cancel_left] at hget
    cases x with
    | node f cs =>
        rw [hbelow, preorder, List.getElem?_cons_succ]
        exact hget
  obtain ⟨rest, hrest⟩ := preorder_isPrefix_drop hx
  have hin : id - i < x.preorder.length := by
    rw [List.getElem?_eq_getElem hj] at hplace
    exact (List.getElem?_eq_some_iff.mp hplace).1
  calc
    n.preorder[id]? = (n.preorder.drop i)[id - i]? := by
      rw [List.getElem?_drop, Nat.add_sub_of_le (by omega)]
    _ = x.preorder[id - i]? := by
      rw [← hrest, List.getElem?_append_left hin]
    _ = x.children[j]? := hplace

/-! ## Trees that mirror a document -/

/-- What is recorded of a node is what the document says, wherever the node lies in its source. -/
structure Shows (info : NodeInfo) (f : DocumentFields) : Prop where
  kind : info.kind = f.kind
  role : info.role = f.role
  text : info.text = f.text
  leading : info.leading = f.leading
  trailing : info.trailing = f.trailing
  reference : info.reference = f.symbol
  declared : info.declared = f.declares
  type : info.type = f.type
  constant : info.constant = f.constant

mutual

/-- A tree has the shape of a document node, is numbered in pre-order from a number on, and shows
what the document says. -/
def Mirrors (k : NodeId) : DocumentNode → Tree → Prop
  | .node f cs, .node info ts => info.id = k ∧ Shows info f ∧ MirrorsAll (k + 1) cs ts

def MirrorsAll (k : NodeId) : List DocumentNode → List Tree → Prop
  | [], [] => True
  | n :: ns, t :: ts => Mirrors k n t ∧ MirrorsAll (k + n.size) ns ts
  | _, _ => False

end

@[simp] theorem MirrorsAll.nil_iff {k : NodeId} {ts : List Tree} :
    MirrorsAll k [] ts ↔ ts = [] := by
  cases ts <;> simp [MirrorsAll]

theorem MirrorsAll.cons_iff {k : NodeId} {n : DocumentNode} {ns : List DocumentNode}
    {ts : List Tree} :
    MirrorsAll k (n :: ns) ts ↔
      ∃ t rest, ts = t :: rest ∧ Mirrors k n t ∧ MirrorsAll (k + n.size) ns rest := by
  constructor
  · intro h
    cases ts with
    | nil =>
        exact h.elim
    | cons t rest =>
        exact ⟨t, rest, rfl, h⟩
  · rintro ⟨t, rest, rfl, h⟩
    exact h

theorem Mirrors.id {k : NodeId} {n : DocumentNode} {t : Tree} (h : Mirrors k n t) :
    t.info.id = k := by
  cases n with
  | node f cs =>
      cases t with
      | node info ts =>
          exact h.1

/-- The numbers of trees that mirror nodes one after another. -/
theorem MirrorsAll.ids (ns : List DocumentNode) :
    ∀ (k : NodeId) (ts : List Tree), MirrorsAll k ns ts →
      ts.map (fun t => t.info.id) = numbersFrom k ns := by
  induction ns with
  | nil =>
      intro k ts h
      rw [MirrorsAll.nil_iff.mp h]
      rfl
  | cons n ns ih =>
      intro k ts h
      obtain ⟨t, rest, rfl, ht, hrest⟩ := MirrorsAll.cons_iff.mp h
      simp [ht.id, ih _ rest hrest, numbersFrom]

/-! ## Walking through a mirror -/

mutual

/-- A walk meets as many nodes as the document has, numbered in order. -/
theorem Mirrors.ids_walk {k : NodeId} {n : DocumentNode} {t : Tree} (above : List Tree)
    (h : Mirrors k n t) : (t.walk above).map Node.id = List.range' k n.size := by
  cases n with
  | node f cs =>
      cases t with
      | node info ts =>
          obtain ⟨hid, -, hchildren⟩ := h
          have hbelow := hchildren.ids_walk (.node info ts :: above)
          rw [Tree.walk, List.map_cons, hbelow, size_node, Nat.add_comm 1, List.range'_succ]
          exact congrArg (· :: _) hid

theorem MirrorsAll.ids_walk {k : NodeId} {ns : List DocumentNode} {ts : List Tree}
    (above : List Tree) (h : MirrorsAll k ns ts) :
    (Tree.walkAll above ts).map Node.id = List.range' k (preorderAll ns).length := by
  cases ns with
  | nil =>
      rw [MirrorsAll.nil_iff.mp h]
      rfl
  | cons n ns =>
      obtain ⟨t, rest, rfl, ht, hrest⟩ := MirrorsAll.cons_iff.mp h
      simp [Tree.walkAll, ht.ids_walk above, hrest.ids_walk above]

end

/-- A node of a tree shows a node of a document, and has its children in order. -/
structure ShownBy (x : DocumentNode) (n : Node) : Prop where
  shows : Shows n.info x.fields
  children : n.children.map Node.id = x.childNumbers n.id

mutual

/-- A walk meets the nodes of the document one after another. -/
theorem Mirrors.walk {k : NodeId} {n : DocumentNode} {t : Tree} (above : List Tree)
    (h : Mirrors k n t) : List.Forall₂ ShownBy n.preorder (t.walk above) := by
  cases n with
  | node f cs =>
      cases t with
      | node info ts =>
          obtain ⟨hid, hshows, hchildren⟩ := h
          rw [preorder, Tree.walk]
          refine List.Forall₂.cons ⟨hshows, ?_⟩ (hchildren.walk _)
          have hids : ts.map (fun t => t.info.id) = numbersFrom (k + 1) cs :=
            hchildren.ids
          rw [Node.children, List.map_map, childNumbers]
          show ts.map (fun t => t.info.id) = numbersFrom (info.id + 1) cs
          rw [hids, hid]

theorem MirrorsAll.walk {k : NodeId} {ns : List DocumentNode} {ts : List Tree}
    (above : List Tree) (h : MirrorsAll k ns ts) :
    List.Forall₂ ShownBy (preorderAll ns) (Tree.walkAll above ts) := by
  cases ns with
  | nil =>
      rw [MirrorsAll.nil_iff.mp h]
      exact List.Forall₂.nil
  | cons n ns =>
      obtain ⟨t, rest, rfl, ht, hrest⟩ := MirrorsAll.cons_iff.mp h
      rw [preorderAll, Tree.walkAll]
      exact List.rel_append (ht.walk above) (hrest.walk above)

end

end DocumentNode

/-! ## Symbols of a document -/

/-- The last symbol of a document with a number. -/
def Document.symbol? (d : Document) (id : SymbolId) : Option Symbol :=
  d.symbols.reverse.find? fun s => s.id == id

end Source

namespace Symbols
namespace SymbolTable

theorem get?_insert (t : SymbolTable) (s : Symbol) (id : SymbolId) :
    (t.insert s).get? id = if s.id = id then some s else t.get? id := by
  simp [insert, get?, Std.TreeMap.getElem?_insert]

/-- Of the symbols with one number in a sequence the table has the last one. -/
theorem get?_ofList (symbols : List Symbol) (id : SymbolId) :
    (ofList symbols).get? id = symbols.reverse.find? fun s => s.id == id := by
  induction symbols using List.reverseRecOn with
  | nil =>
      simp [ofList, empty, get?]
  | append_singleton symbols s ih =>
      rw [ofList] at ih ⊢
      by_cases hid : s.id = id <;> simp [get?_insert, hid, ih]

end SymbolTable
end Symbols
end TreeLint
