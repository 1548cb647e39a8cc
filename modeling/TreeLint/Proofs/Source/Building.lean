import TreeLint.Proofs.Source.Recording

/-!
# Building the tree of a document

The nodes of a document are added depth first. Between two of them the builder has made no mistake,
keeps no trivia back and has nothing recorded under numbers to come, so the next node of the
document is recorded under the next number, and its complete tree is handed to the innermost open
node. By induction over the document the tree that comes out mirrors it.

**Results.**
* `Builder.records_start`, `Builder.records_token`, `Builder.closes_close`: the steps that make
  nodes.
* `Builder.exists_adds`: adding a node of a document builds a tree that mirrors it.
* `Builder.add_of_find?`: when a node can be added, and how it fails else.
-/

namespace TreeLint
namespace Source

open Symbols Syntax DocumentNode

namespace Builder

variable {b c : Builder}

/-! ## Between two nodes -/

/-- A builder between two nodes of a document. -/
structure Steady (b : Builder) : Prop where
  pending : b.pending = []
  fault : b.fault = none
  fresh : ∀ i : Nat, b.entries.size ≤ i → b.info i = blankInfo i

/-- There is room for a node: some node is open, or there is none yet. -/
def HasRoom (b : Builder) : Prop :=
  b.opened = [] → b.roots = []

theorem admit?_of_hasRoom (h : b.HasRoom) (kind : String) : b.admit? kind = b := by
  unfold admit?
  by_cases hopened : b.opened = []
  · simp [hopened, h hopened]
  · simp [hopened]

/-- A step that touches one of the nodes that are there leaves the builder as steady. -/
theorem Steady.of_touches {id : Nat} (hb : b.Steady) (h : Touches id b c)
    (hid : id < b.entries.size) : c.Steady where
  pending := h.pending.trans hb.pending
  fault := h.fault.trans hb.fault
  fresh := by
    intro i hi
    rw [h.size] at hi
    rw [h.info i (by omega)]
    exact hb.fresh i hi

/-! ## Handing over complete nodes -/

theorem attach_of_nil (h : b.opened = []) (o : Outline) :
    b.attach o = { b with roots := o :: b.roots } := by
  rw [attach, h]

theorem attach_of_cons {p : OpenNode} {rest : List OpenNode} (h : b.opened = p :: rest)
    (o : Outline) :
    b.attach o = { b with opened := { p with children := o :: p.children } :: rest } := by
  rw [attach, h]

/-- Handing over a complete node changes nothing but the open nodes and the roots. -/
theorem attach_eq (b : Builder) (o : Outline) :
    b.attach o =
      { b with opened := (b.attach o).opened, roots := (b.attach o).roots } := by
  cases h : b.opened with
  | nil => rw [attach_of_nil h]
  | cons p rest => rw [attach_of_cons h]

@[simp] theorem info_attach (b : Builder) (o : Outline) : (b.attach o).info = b.info := by
  rw [attach_eq]
  rfl

@[simp] theorem size_attach (b : Builder) (o : Outline) :
    (b.attach o).entries.size = b.entries.size := by
  rw [attach_eq]

/-- Where a complete node goes depends on the open nodes and the roots only. -/
theorem attach_congr (hopened : c.opened = b.opened) (hroots : c.roots = b.roots) (o : Outline) :
    (c.attach o).opened = (b.attach o).opened ∧ (c.attach o).roots = (b.attach o).roots := by
  cases h : b.opened with
  | nil =>
      rw [attach_of_nil h, attach_of_nil (hopened.trans h), hroots]
      exact ⟨hopened, rfl⟩
  | cons p rest =>
      rw [attach_of_cons h, attach_of_cons (hopened.trans h)]
      exact ⟨rfl, hroots⟩

/-! ## Making nodes -/

/-- One more node is recorded, and shows some fields. -/
structure Records (b c : Builder) (f : DocumentFields) : Prop where
  size : c.entries.size = b.entries.size + 1
  steady : c.Steady
  symbols : c.symbols = b.symbols
  info : ∀ i : Nat, i < b.entries.size → c.info i = b.info i
  shows : Shows (c.info b.entries.size) f

theorem info_push (b : Builder) (e : Entry) (i : Nat) :
    ({ b with entries := b.entries.push e } : Builder).info i =
      if i = b.entries.size then b.infoOf i e else b.info i := by
  show b.infoOf i ((b.entries.push e)[i]?.getD blankEntry) = _
  rw [Array.getElem?_push]
  split
  · rfl
  · rfl

/-- Recording an entry without trivia makes a node of which nothing else is known. -/
theorem Steady.records_push (hb : b.Steady) {e : Entry} (hleading : e.leading = [])
    (htrailing : e.trailing = []) :
    Records b { b with entries := b.entries.push e } (bare e.kind e.role e.text) where
  size := Array.size_push e
  steady :=
    { pending := hb.pending
      fault := hb.fault
      fresh := by
        intro i hi
        have hbehind : b.entries.size + 1 ≤ i := by
          rw [← Array.size_push e]
          exact hi
        rw [info_push, if_neg (by omega)]
        exact hb.fresh i (by omega) }
  symbols := rfl
  info := by
    intro i hi
    rw [info_push, if_neg (by omega)]
  shows := by
    have hblank : b.info b.entries.size = blankInfo b.entries.size :=
      hb.fresh _ (by omega)
    rw [info_push, if_pos rfl]
    exact
      { kind := rfl
        role := rfl
        text := rfl
        leading := hleading
        trailing := htrailing
        reference := congrArg NodeInfo.reference hblank
        declared := congrArg NodeInfo.declared hblank
        type := congrArg NodeInfo.type hblank
        constant := congrArg NodeInfo.constant hblank }

/-- Opening a node records it and leaves it open. -/
theorem records_start (hb : b.Steady) (hroom : b.HasRoom) (kind : String) (role : Option String) :
    Records b (b.start kind role) (bare kind role none) ∧
      (b.start kind role).opened = ⟨b.entries.size, []⟩ :: b.opened ∧
      (b.start kind role).roots = b.roots := by
  let e : Entry := ⟨kind, role, none, Span.point ⟨0, 0⟩, false, [], []⟩
  have hrecords := hb.records_push (e := e) rfl rfl
  rw [start, admit?_of_hasRoom hroom]
  exact ⟨⟨hrecords.size, ⟨hb.pending, hb.fault, hrecords.steady.fresh⟩, rfl, hrecords.info,
    hrecords.shows⟩, rfl, rfl⟩

/-- Adding a token records it and hands it over. -/
theorem records_token (hb : b.Steady) (hroom : b.HasRoom) (kind text : String)
    (role : Option String) :
    Records b (b.token kind text role) (bare kind role (some text)) ∧
      (b.token kind text role).opened = (b.attach (.node b.entries.size [])).opened ∧
      (b.token kind text role).roots = (b.attach (.node b.entries.size [])).roots := by
  let e : Entry :=
    ⟨kind, role, some text, ⟨b.cursor, b.cursor.after text.toList⟩, false, b.pending, []⟩
  have hrecords := hb.records_push (e := e) hb.pending rfl
  rw [token, admit?_of_hasRoom hroom]
  constructor
  · rw [attach_eq]
    exact ⟨hrecords.size, ⟨rfl, hb.fault, hrecords.steady.fresh⟩, rfl, hrecords.info,
      hrecords.shows⟩
  · apply attach_congr
    · rfl
    · rfl

/-- The innermost open node is closed: it goes where complete nodes go, with its children, and
shows what it showed before. -/
structure Closes (b : Builder) (n : OpenNode) (rest : List OpenNode) (c : Builder) : Prop where
  size : c.entries.size = b.entries.size
  pending : c.pending = b.pending
  fault : c.fault = b.fault
  symbols : c.symbols = b.symbols
  opened : c.opened = (attach { b with opened := rest } (.node n.id n.children.reverse)).opened
  roots : c.roots = (attach { b with opened := rest } (.node n.id n.children.reverse)).roots
  info : ∀ i : Nat, i ≠ n.id → c.info i = b.info i
  shows : ∀ f, n.id < b.entries.size → Shows (b.info n.id) f → Shows (c.info n.id) f

theorem closes_close {n : OpenNode} {rest : List OpenNode} (h : b.opened = n :: rest) :
    Closes b n rest b.close := by
  let change : Entry → Entry := fun e =>
    if e.spanGiven then e else { e with span := b.closingSpan n.children.reverse }
  let m : Builder := { b with entries := b.entries.modify n.id change, opened := rest }
  have hclose : b.close = m.attach (.node n.id n.children.reverse) := by
    rw [close, h]
  have hnotes : ∀ f, Notes n.id f f { b with opened := rest } m := by
    intro f
    apply notes_modify { b with opened := rest }
    intro e he
    dsimp only [change]
    split
    · exact he
    · exact { he with }
  have htouches : Touches n.id { b with opened := rest } m := touches_modify _ _ _
  obtain ⟨hopened, hroots⟩ :=
    attach_congr htouches.opened htouches.roots (.node n.id n.children.reverse)
  rw [hclose]
  constructor
  case opened => exact hopened
  case roots => exact hroots
  case size => exact (size_attach m _).trans htouches.size
  case info =>
    intro i hi
    rw [info_attach]
    exact htouches.info i hi
  case shows =>
    intro f hid hshows
    simpa using (hnotes f).shows hid hshows
  all_goals
    rw [attach_eq]

/-- Closing one of the nodes that are there leaves the builder as steady. -/
theorem Steady.of_closes {n : OpenNode} {rest : List OpenNode} (hb : b.Steady)
    (h : Closes b n rest c) (hid : n.id < b.entries.size) : c.Steady where
  pending := h.pending.trans hb.pending
  fault := h.fault.trans hb.fault
  fresh := by
    intro i hi
    have hle : b.entries.size ≤ i := h.size ▸ hi
    have hne : i ≠ n.id := Nat.ne_of_gt (Nat.lt_of_lt_of_le hid hle)
    rw [h.info i hne]
    exact hb.fresh i hle

/-! ## Trees that are complete -/

mutual

/-- A tree that mirrors a node does not change with what is recorded under other numbers. -/
theorem treeOf_eq_of_mirrors {k : Nat} {n : DocumentNode} {o : Outline}
    (h : Mirrors k n (b.treeOf o))
    (hinfo : ∀ i : Nat, k ≤ i → i < k + n.size → c.info i = b.info i) :
    c.treeOf o = b.treeOf o := by
  cases n with
  | node f cs =>
      cases o with
      | node id os =>
          rw [treeOf_node] at h
          obtain ⟨hid, -, hchildren⟩ := h
          obtain rfl : id = k := hid
          have hsize := size_node f cs
          rw [treeOf_node, treeOf_node, hinfo id (by omega) (by omega)]
          rw [treesOf_eq_of_mirrors hchildren]
          intro i hle hlt
          exact hinfo i (by omega) (by omega)

theorem treesOf_eq_of_mirrors {k : Nat} {ns : List DocumentNode} {os : List Outline}
    (h : MirrorsAll k ns (b.treesOf os))
    (hinfo : ∀ i : Nat, k ≤ i → i < k + (preorderAll ns).length → c.info i = b.info i) :
    c.treesOf os = b.treesOf os := by
  cases os with
  | nil =>
      rw [treesOf, treesOf]
  | cons o os =>
      cases ns with
      | nil =>
          rw [treesOf] at h
          exact h.elim
      | cons n ns =>
          rw [treesOf] at h
          obtain ⟨hfirst, hrest⟩ := h
          have hsize := length_preorderAll_cons n ns
          rw [treesOf, treesOf, treeOf_eq_of_mirrors hfirst, treesOf_eq_of_mirrors hrest]
          · intro i hle hlt
            exact hinfo i (by omega) (by omega)
          · intro i hle hlt
            exact hinfo i hle (by omega)

end

/-! ## Adding nodes -/

/-- A node of a document was added: the tree of its outline mirrors it, the outline was handed
over, and nothing that was recorded before has changed. -/
structure Adds (b : Builder) (n : DocumentNode) (o : Outline) (c : Builder) : Prop where
  steady : c.Steady
  size : c.entries.size = b.entries.size + n.size
  opened : c.opened = (b.attach o).opened
  roots : c.roots = (b.attach o).roots
  symbols : c.symbols = b.symbols
  info : ∀ i : Nat, i < b.entries.size → c.info i = b.info i
  mirrors : Mirrors b.entries.size n (c.treeOf o)

/-- Several nodes were added below an open one. -/
structure AddsAll (b : Builder) (ns : List DocumentNode) (os : List Outline) (c : Builder) :
    Prop where
  steady : c.Steady
  size : c.entries.size = b.entries.size + (preorderAll ns).length
  opened : ∀ p rest, b.opened = p :: rest →
    c.opened = { p with children := os.reverse ++ p.children } :: rest
  roots : c.roots = b.roots
  symbols : c.symbols = b.symbols
  info : ∀ i : Nat, i < b.entries.size → c.info i = b.info i
  mirrors : MirrorsAll b.entries.size ns (c.treesOf os)

/-- A token is added with all that the document says about it. -/
theorem adds_token (hb : b.Steady) (hroom : b.HasRoom) {f : DocumentFields} {text : String}
    (htext : f.text = some text) :
    Adds b (.node f []) (.node b.entries.size [])
      ((b.token f.kind text f.role).annotate b.nextNode f) := by
  obtain ⟨hrecords, hopened, hroots⟩ := records_token hb hroom f.kind text f.role
  have hnotes := notes_annotate (b.token f.kind text f.role) b.entries.size f
  have hid : b.entries.size < (b.token f.kind text f.role).entries.size := by
    have hsize := hrecords.size
    omega
  constructor
  case steady => exact hrecords.steady.of_touches hnotes.touches hid
  case size => exact hnotes.touches.size.trans hrecords.size
  case opened => exact hnotes.touches.opened.trans hopened
  case roots => exact hnotes.touches.roots.trans hroots
  case symbols => exact hnotes.touches.symbols.trans hrecords.symbols
  case info =>
    intro i hi
    exact (hnotes.touches.info i (by omega)).trans (hrecords.info i hi)
  case mirrors =>
    rw [treeOf_node]
    rw [htext] at hnotes
    exact ⟨rfl, hnotes.shows hid hrecords.shows, trivial⟩

/-- An interior node is added with all that the document says about it, if the nodes below it are
added while it is open. -/
theorem adds_interior (hb : b.Steady) (hroom : b.HasRoom) {f : DocumentFields}
    (htext : f.text = none) {cs : List DocumentNode} {os : List Outline}
    (h : AddsAll (b.start f.kind f.role) cs os c) :
    Adds b (.node f cs) (.node b.entries.size os) (c.close.annotate b.nextNode f) := by
  obtain ⟨hrecords, hstarted, hroots⟩ := records_start hb hroom f.kind f.role
  have hstart := hrecords.size
  have hbelow := h.size
  have hopened : c.opened = ⟨b.entries.size, os.reverse⟩ :: b.opened := by
    rw [h.opened _ _ hstarted, List.append_nil]
  have hid : b.entries.size < c.entries.size := by
    omega
  have hcloses := closes_close hopened
  have hnotes := notes_annotate c.close b.entries.size f
  have hidClosed : b.entries.size < c.close.entries.size := by
    rw [hcloses.size]
    exact hid
  have hplace := attach_congr (b := b) (c := { c with opened := b.opened }) rfl
    (h.roots.trans hroots) (.node b.entries.size os.reverse.reverse)
  rw [List.reverse_reverse] at hplace
  have hinfo : ∀ i : Nat, i ≠ b.entries.size →
      (c.close.annotate b.entries.size f).info i = c.info i := by
    intro i hi
    rw [hnotes.touches.info i hi, hcloses.info i hi]
  constructor
  case steady => exact (h.steady.of_closes hcloses hid).of_touches hnotes.touches hidClosed
  case size =>
    have hdocument := size_node f cs
    have hannotated := hnotes.touches.size
    have hclosed := hcloses.size
    show (c.close.annotate b.entries.size f).entries.size = _
    omega
  case opened =>
    have hclosed := hcloses.opened
    rw [List.reverse_reverse] at hclosed
    exact hnotes.touches.opened.trans (hclosed.trans hplace.1)
  case roots =>
    have hclosed := hcloses.roots
    rw [List.reverse_reverse] at hclosed
    exact hnotes.touches.roots.trans (hclosed.trans hplace.2)
  case symbols =>
    exact hnotes.touches.symbols.trans
      (hcloses.symbols.trans (h.symbols.trans hrecords.symbols))
  case info =>
    intro i hi
    refine (hinfo i (by omega)).trans ?_
    rw [h.info i (by omega)]
    exact hrecords.info i hi
  case mirrors =>
    have hshown : Shows (c.info b.entries.size) (bare f.kind f.role f.text) := by
      rw [htext, h.info b.entries.size (by omega)]
      exact hrecords.shows
    have hchildren : MirrorsAll (b.entries.size + 1) cs (c.treesOf os) := by
      rw [← hstart]
      exact h.mirrors
    rw [treeOf_node]
    refine ⟨rfl, hnotes.shows hidClosed (hcloses.shows _ hid hshown), ?_⟩
    rw [treesOf_eq_of_mirrors hchildren]
    · exact hchildren
    · intro i hle _
      exact hinfo i (by omega)

theorem AddsAll.nil (hb : b.Steady) : AddsAll b [] [] b :=
  ⟨hb, rfl, fun _ _ h => h, rfl, rfl, fun _ _ => rfl, trivial⟩

/-- A node that is added below an open node, in front of others that are. -/
theorem AddsAll.cons {d : Builder} {n : DocumentNode} {ns : List DocumentNode} {o : Outline}
    {os : List Outline} {p : OpenNode} {rest : List OpenNode} (hopen : b.opened = p :: rest)
    (hfirst : Adds b n o c) (hrest : AddsAll c ns os d) : AddsAll b (n :: ns) (o :: os) d := by
  have hfirstSize := hfirst.size
  have hrestSize := hrest.size
  have hsize := length_preorderAll_cons n ns
  constructor
  case steady => exact hrest.steady
  case size => omega
  case opened =>
    intro q above h
    have hstep : c.opened = { q with children := o :: q.children } :: above := by
      rw [hfirst.opened, attach_of_cons h]
    simp [hrest.opened _ _ hstep]
  case roots =>
    rw [hrest.roots, hfirst.roots, attach_of_cons hopen]
  case symbols => exact hrest.symbols.trans hfirst.symbols
  case info =>
    intro i hi
    rw [hrest.info i (by omega)]
    exact hfirst.info i hi
  case mirrors =>
    have hmirrors := hfirst.mirrors
    rw [← treeOf_eq_of_mirrors (c := d) hmirrors] at hmirrors
    · have hbehind := hrest.mirrors
      rw [hfirstSize] at hbehind
      rw [treesOf]
      exact ⟨hmirrors, hbehind⟩
    · intro i _ hlt
      exact hrest.info i (by omega)

theorem add_of_text {f : DocumentFields} {text : String} (htext : f.text = some text) :
    b.add (.node f []) = .ok ((b.token f.kind text f.role).annotate b.nextNode f) := by
  unfold add
  rw [htext]

theorem add_of_text_of_children {f : DocumentFields} {text : String} (htext : f.text = some text)
    (n : DocumentNode) (ns : List DocumentNode) :
    b.add (.node f (n :: ns)) = .error (.textWithChildren f.kind) := by
  unfold add
  rw [htext]

theorem add_of_addAll {f : DocumentFields} (htext : f.text = none) {cs : List DocumentNode}
    (h : (b.start f.kind f.role).addAll cs = .ok c) :
    b.add (.node f cs) = .ok (c.close.annotate b.nextNode f) := by
  unfold add
  cases cs <;> simp only [htext, h]

theorem add_of_addAll_error {f : DocumentFields} (htext : f.text = none)
    {cs : List DocumentNode} {cause : DocumentError}
    (h : (b.start f.kind f.role).addAll cs = .error cause) :
    b.add (.node f cs) = .error cause := by
  unfold add
  cases cs <;> simp only [htext, h]

mutual

/-- Adding a node of a document builds a tree that mirrors it. -/
theorem exists_adds {n : DocumentNode} {b c : Builder} (hb : b.Steady) (hroom : b.HasRoom)
    (h : b.add n = .ok c) : ∃ o, Adds b n o c := by
  cases n with
  | node f cs =>
      cases htext : f.text with
      | some text =>
          cases cs with
          | nil =>
              rw [add_of_text htext] at h
              cases h
              exact ⟨_, adds_token hb hroom htext⟩
          | cons n ns =>
              rw [add_of_text_of_children htext] at h
              cases h
      | none =>
          cases hall : (b.start f.kind f.role).addAll cs with
          | error cause =>
              rw [add_of_addAll_error htext hall] at h
              cases h
          | ok d =>
              rw [add_of_addAll htext hall] at h
              cases h
              obtain ⟨hrecords, hstarted, -⟩ := records_start hb hroom f.kind f.role
              obtain ⟨os, hos⟩ := exists_addsAll hrecords.steady hstarted hall
              exact ⟨_, adds_interior hb hroom htext hos⟩

theorem exists_addsAll {ns : List DocumentNode} {b c : Builder} {p : OpenNode}
    {rest : List OpenNode} (hb : b.Steady) (hopen : b.opened = p :: rest)
    (h : b.addAll ns = .ok c) : ∃ os, AddsAll b ns os c := by
  cases ns with
  | nil =>
      rw [addAll] at h
      cases h
      exact ⟨[], AddsAll.nil hb⟩
  | cons n ns =>
      rw [addAll] at h
      cases hfirst : b.add n with
      | error cause =>
          rw [hfirst] at h
          cases h
      | ok d =>
          rw [hfirst] at h
          have hroom : b.HasRoom := by
            intro hnone
            rw [hopen] at hnone
            cases hnone
          obtain ⟨o, ho⟩ := exists_adds hb hroom hfirst
          have hstill : d.opened = { p with children := o :: p.children } :: rest := by
            rw [ho.opened, attach_of_cons hopen]
          obtain ⟨os, hos⟩ := exists_addsAll ho.steady hstill h
          exact ⟨o :: os, AddsAll.cons hopen ho hos⟩

end

/-! ## Nodes that cannot be added -/

mutual

/-- The first node with a text and children makes a document fail, whatever the builder is. -/
theorem add_of_find? (n : DocumentNode) (b : Builder) :
    match n.preorder.find? isMixed with
    | some x => b.add n = .error (.textWithChildren x.fields.kind)
    | none => ∃ c, b.add n = .ok c := by
  cases n with
  | node f cs =>
      cases htext : f.text with
      | some text =>
          cases cs with
          | nil =>
              have hplain : isMixed (.node f []) = false := by
                simp [isMixed, children]
              rw [preorder, preorderAll, List.find?_singleton, hplain]
              exact ⟨_, add_of_text htext⟩
          | cons n ns =>
              have hmixed : isMixed (.node f (n :: ns)) = true := by
                simp [isMixed, fields, children, htext]
              rw [preorder, List.find?_cons, hmixed]
              exact add_of_text_of_children htext n ns
      | none =>
          have hall := addAll_of_find? cs (b.start f.kind f.role)
          have hplain : isMixed (.node f cs) = false := by
            simp [isMixed, fields, htext]
          rw [preorder, List.find?_cons, hplain]
          cases hcs : (preorderAll cs).find? isMixed with
          | some x =>
              rw [hcs] at hall
              exact add_of_addAll_error htext hall
          | none =>
              rw [hcs] at hall
              obtain ⟨c, hc⟩ := hall
              exact ⟨_, add_of_addAll htext hc⟩

theorem addAll_of_find? (ns : List DocumentNode) (b : Builder) :
    match (preorderAll ns).find? isMixed with
    | some x => b.addAll ns = .error (.textWithChildren x.fields.kind)
    | none => ∃ c, b.addAll ns = .ok c := by
  cases ns with
  | nil =>
      exact ⟨b, by rw [addAll]⟩
  | cons n ns =>
      have hfirst := add_of_find? n b
      rw [preorderAll, List.find?_append, addAll]
      cases hn : n.preorder.find? isMixed with
      | some x =>
          rw [hn] at hfirst
          rw [hfirst]
          rfl
      | none =>
          rw [hn] at hfirst
          obtain ⟨c, hc⟩ := hfirst
          simpa [hc] using addAll_of_find? ns c

end

end Builder
end Source
end TreeLint
