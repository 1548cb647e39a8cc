import TreeLint.Grammar.Expression
import TreeLint.Proofs.Syntax.Mapping

/-!
# Questions about trees whose nodes carry something else

A grammar asks about kinds, roles and the place of nodes. So its answers for a tree whose nodes
carry other texts, other trivia and other symbols are the answers for the tree itself, with the
nodes replaced. Only names and literals depend on texts, and only the symbol of an expression and
the comments of a body depend on more: they are the same as far as the symbols of single nodes and
the comments around single tokens are.

**Results.**
* `identifier?_mapInfo`, `climb_mapInfo`, `symbol?_mapInfo`: names and what they refer to.
* `left?_mapInfo`, `right?_mapInfo`, `targets_mapInfo`: assignments.
* `arguments?_mapInfo`, `isConstant_mapInfo`, `stringValue?_mapInfo`: values of expressions.
* `hasDelimiterComment_mapInfo`: comments inside a body.
-/

namespace TreeLint

open Syntax Symbols Source

/-- Whether there are comments in front of a node and behind it. -/
def Syntax.NodeInfo.comments (i : NodeInfo) : Bool × Bool :=
  (hasComment i.leading, hasComment i.trailing)

variable {f : NodeInfo → NodeInfo} (hf : NodeInfo.KeepsShape f)

@[simp] theorem Syntax.Node.isAny_mapInfo (hf : NodeInfo.KeepsShape f) (n : Node)
    (kinds : Grammar.KindSet) : (n.mapInfo f).isAny kinds = n.isAny kinds := by
  rw [isAny, isAny, kind_mapInfo hf]

namespace Grammar

variable (g : Grammar)
include hf

/-! ## Names and parentheses -/

mutual

theorem strip_mapInfo (above : List Tree) (t : Tree) :
    strip g (above.map (Tree.mapInfo f)) (t.mapInfo f) = (strip g above t).mapInfo f := by
  cases t with
  | node info ts =>
      have hinner := stripFirst_mapInfo (.node info ts :: above) ts
      rw [List.map_cons, Tree.mapInfo] at hinner
      rw [Tree.mapInfo, strip, strip, hf.kind, hinner]
      split
      · cases stripFirst g (.node info ts :: above) ts <;> simp [Node.mapInfo, Tree.mapInfo]
      · simp [Node.mapInfo, Tree.mapInfo]

theorem stripFirst_mapInfo (above ts : List Tree) :
    stripFirst g (above.map (Tree.mapInfo f)) (Tree.mapInfoAll f ts) =
      (stripFirst g above ts).map (Node.mapInfo f) := by
  cases ts with
  | nil => rfl
  | cons t ts =>
      rw [Tree.mapInfoAll, stripFirst, stripFirst, Tree.isToken_mapInfo hf, strip_mapInfo above t,
        stripFirst_mapInfo above ts]
      split <;> rfl

end

@[simp] theorem unparenthesized_mapInfo (n : Node) :
    g.unparenthesized (n.mapInfo f) = (g.unparenthesized n).mapInfo f :=
  strip_mapInfo hf g n.above n.tree

mutual

theorem identifierIn?_mapInfo (above : List Tree) (t : Tree) :
    identifierIn? g (above.map (Tree.mapInfo f)) (t.mapInfo f) =
      (identifierIn? g above t).map (Node.mapInfo f) := by
  cases t with
  | node info ts =>
      have hnode : (Node.mk (.node (f info) (Tree.mapInfoAll f ts)) (above.map (Tree.mapInfo f))) =
          (Node.mk (.node info ts) above).mapInfo f := by
        rw [Node.mapInfo, Tree.mapInfo]
      have hlast := identifierOfLast?_mapInfo (.node info ts :: above) ts
      have hheader := identifierOfHeader?_mapInfo (.node info ts :: above) ts
      rw [List.map_cons, Tree.mapInfo] at hlast hheader
      have htoken : ((Node.mk (.node info ts) above).mapInfo f).children.find?
            (fun c => c.isAny g.identifierToken) =
          ((Node.mk (.node info ts) above).children.find? fun c =>
            c.isAny g.identifierToken).map (Node.mapInfo f) := by
        simp only [Node.children_mapInfo, List.find?_map, Function.comp_def, Node.isAny_mapInfo hf]
      rw [Tree.mapInfo, identifierIn?, identifierIn?, hf.kind, hlast, hheader, hnode, htoken]
      split
      · rfl
      · split
        · cases identifierOfLast? g (.node info ts :: above) ts <;> rfl
        · cases (Node.mk (.node info ts) above).children.find? fun c =>
            c.isAny g.identifierToken with
          | some token => rfl
          | none => cases identifierOfHeader? g (.node info ts :: above) ts <;> rfl

theorem identifierOfLast?_mapInfo (above ts : List Tree) :
    identifierOfLast? g (above.map (Tree.mapInfo f)) (Tree.mapInfoAll f ts) =
      (identifierOfLast? g above ts).map (Option.map (Node.mapInfo f)) := by
  cases ts with
  | nil => rfl
  | cons t ts =>
      rw [Tree.mapInfoAll, identifierOfLast?, identifierOfLast?, Tree.isToken_mapInfo hf,
        identifierIn?_mapInfo above t, identifierOfLast?_mapInfo above ts]
      cases identifierOfLast? g above ts with
      | some found => rfl
      | none => simp only [Option.map_none]; split <;> rfl

theorem identifierOfHeader?_mapInfo (above ts : List Tree) :
    identifierOfHeader? g (above.map (Tree.mapInfo f)) (Tree.mapInfoAll f ts) =
      (identifierOfHeader? g above ts).map (Option.map (Node.mapInfo f)) := by
  cases ts with
  | nil => rfl
  | cons t ts =>
      rw [Tree.mapInfoAll, identifierOfHeader?, identifierOfHeader?, Tree.isToken_mapInfo hf,
        Tree.info_mapInfo, hf.kind, identifierIn?_mapInfo above t,
        identifierOfHeader?_mapInfo above ts]
      split <;> rfl

end

@[simp] theorem identifier?_mapInfo (n : Node) :
    g.identifier? (n.mapInfo f) = (g.identifier? n).map (Node.mapInfo f) :=
  identifierIn?_mapInfo hf g n.above n.tree

omit hf in
/-- Names are made of texts, so they stay. -/
@[simp] theorem name?_mapInfo (hf : NodeInfo.KeepsSyntax f) (g : Grammar) (n : Node) :
    g.name? (n.mapInfo f) = g.name? n := by
  rw [name?, name?, identifier?_mapInfo hf.toKeepsShape, Option.map_map]
  congr 1
  funext token
  rw [Function.comp_apply, Node.text_mapInfo hf]

omit hf in
theorem NameComparison.equal_comm (c : NameComparison) (a b : String) :
    c.equal a b = c.equal b a := by
  cases c with
  | caseSensitive => exact Bool.beq_comm
  | caseInsensitive => exact Bool.beq_comm

/-- Names compare alike in a tree with other things carried. -/
def ComparesAlike (g : Grammar) (f : NodeInfo → NodeInfo) : Prop :=
  ∀ (n : Node) (name : String),
    (g.name? (n.mapInfo f)).any (g.comparison.equal · name) =
      (g.name? n).any (g.comparison.equal · name)

omit hf in
theorem comparesAlike (g : Grammar) (hf : NodeInfo.KeepsSyntax f) : g.ComparesAlike f := by
  intro n name
  rw [name?_mapInfo hf]

@[simp] theorem isAccessedName_mapInfo (access n : Node) :
    g.isAccessedName (access.mapInfo f) (n.mapInfo f) = g.isAccessedName access n := by
  rw [isAccessedName, isAccessedName, Node.isAny_mapInfo hf, Node.childNodes_mapInfo hf,
    List.getLast?_map, Option.any_map]
  congr 2
  funext last
  exact Node.same_mapInfo hf last n

theorem climbFrom_mapInfo (above : List Tree) (t : Tree) :
    climbFrom g (t.mapInfo f) (above.map (Tree.mapInfo f)) = (climbFrom g t above).mapInfo f := by
  induction above generalizing t with
  | nil => rfl
  | cons p rest ih =>
      have haccess := isAccessedName_mapInfo hf g ⟨p, rest⟩ ⟨t, p :: rest⟩
      simp only [Node.mapInfo, List.map_cons] at haccess
      rw [List.map_cons, climbFrom, climbFrom, haccess, Tree.info_mapInfo, hf.kind, ih]
      split <;> rfl

@[simp] theorem climb_mapInfo (n : Node) : g.climb (n.mapInfo f) = (g.climb n).mapInfo f :=
  climbFrom_mapInfo hf g n.above n.tree

/-! ## Symbols -/

section Symbols

variable {u v : SourceUnit} {h : Symbol → Symbol}

theorem nameSymbol?_mapInfo
    (href : ∀ n : Node, v.reference? (n.mapInfo f) = (u.reference? n).map h) (n : Node) :
    g.nameSymbol? v (n.mapInfo f) = (g.nameSymbol? u n).map h := by
  rw [nameSymbol?, nameSymbol?, Node.isAny_mapInfo hf, identifier?_mapInfo hf]
  split
  · cases g.identifier? n with
    | none => rfl
    | some token => exact href token
  · rfl

mutual

theorem symbolIn?_mapInfo
    (href : ∀ n : Node, v.reference? (n.mapInfo f) = (u.reference? n).map h)
    (above : List Tree) (t : Tree) :
    symbolIn? g v (above.map (Tree.mapInfo f)) (t.mapInfo f) = (symbolIn? g u above t).map h := by
  cases t with
  | node info ts =>
      have hnode : (Node.mk (.node (f info) (Tree.mapInfoAll f ts)) (above.map (Tree.mapInfo f))) =
          (Node.mk (.node info ts) above).mapInfo f := by
        rw [Node.mapInfo, Tree.mapInfo]
      have hfirst := symbolOfFirst?_mapInfo href (.node info ts :: above) ts
      have hlast := symbolOfLast?_mapInfo href (.node info ts :: above) ts
      rw [List.map_cons, Tree.mapInfo] at hfirst hlast
      rw [Tree.mapInfo, symbolIn?, symbolIn?, hf.kind, hfirst, hlast, hnode, href,
        nameSymbol?_mapInfo hf g href]
      have hinside :
          (if g.parenthesized.contains info.kind then
              (symbolOfFirst? g u (.node info ts :: above) ts).map (Option.map h)
            else none) =
          (if g.parenthesized.contains info.kind then
              symbolOfFirst? g u (.node info ts :: above) ts
            else none).map (Option.map h) := by
        split <;> rfl
      simp only [hinside]
      cases (if g.parenthesized.contains info.kind then
          symbolOfFirst? g u (.node info ts :: above) ts else none) with
      | some found => rfl
      | none =>
          simp only [Option.map_none]
          cases u.reference? ⟨.node info ts, above⟩ with
          | some s => rfl
          | none =>
              simp only [Option.map_none]
              split
              · cases symbolOfLast? g u (.node info ts :: above) ts <;> rfl
              · rfl

theorem symbolOfFirst?_mapInfo
    (href : ∀ n : Node, v.reference? (n.mapInfo f) = (u.reference? n).map h)
    (above ts : List Tree) :
    symbolOfFirst? g v (above.map (Tree.mapInfo f)) (Tree.mapInfoAll f ts) =
      (symbolOfFirst? g u above ts).map (Option.map h) := by
  cases ts with
  | nil => rfl
  | cons t ts =>
      rw [Tree.mapInfoAll, symbolOfFirst?, symbolOfFirst?, Tree.isToken_mapInfo hf,
        symbolIn?_mapInfo href above t, symbolOfFirst?_mapInfo href above ts]
      split <;> rfl

theorem symbolOfLast?_mapInfo
    (href : ∀ n : Node, v.reference? (n.mapInfo f) = (u.reference? n).map h)
    (above ts : List Tree) :
    symbolOfLast? g v (above.map (Tree.mapInfo f)) (Tree.mapInfoAll f ts) =
      (symbolOfLast? g u above ts).map (Option.map h) := by
  cases ts with
  | nil => rfl
  | cons t ts =>
      rw [Tree.mapInfoAll, symbolOfLast?, symbolOfLast?, Tree.isToken_mapInfo hf,
        symbolIn?_mapInfo href above t, symbolOfLast?_mapInfo href above ts]
      cases symbolOfLast? g u above ts with
      | some found => rfl
      | none => simp only [Option.map_none]; split <;> rfl

end

/-- An expression refers to the symbol that takes the place of the one it referred to. -/
theorem symbol?_mapInfo
    (href : ∀ n : Node, v.reference? (n.mapInfo f) = (u.reference? n).map h) (n : Node) :
    g.symbol? v (n.mapInfo f) = (g.symbol? u n).map h :=
  symbolIn?_mapInfo hf g href n.above n.tree

end Symbols

/-! ## Assignments -/

omit g in
@[simp] theorem argumentExpression?_mapInfo (n : Node) :
    argumentExpression? (n.mapInfo f) = (argumentExpression? n).map (Node.mapInfo f) := by
  cases hrole : n.childInRole? expressionRole <;> simp [argumentExpression?, hrole, hf]

@[simp] theorem left?_mapInfo (n : Node) :
    g.left? (n.mapInfo f) = (g.left? n).map (Node.mapInfo f) := by
  by_cases h : n.isAny g.assignment = true
  · cases hrole : n.childInRole? "left" <;> simp [left?, h, hrole, hf]
  · simp [left?, h, hf]

@[simp] theorem right?_mapInfo (n : Node) :
    g.right? (n.mapInfo f) = (g.right? n).map (Node.mapInfo f) := by
  by_cases h : n.isAny g.assignment = true
  · cases hrole : n.childInRole? "right" <;> simp [right?, h, hrole, ← List.map_tail, hf]
  · simp [right?, h, hf]

omit hf

mutual

theorem targetsIn_mapInfo (hf : NodeInfo.KeepsShape f) (above : List Tree) (t : Tree) :
    targetsIn g (above.map (Tree.mapInfo f)) (t.mapInfo f) =
      (targetsIn g above t).map (Node.mapInfo f) := by
  cases t with
  | node info ts =>
      have hfirst := targetsOfFirst?_mapInfo hf (.node info ts :: above) ts
      have harguments := targetsOfArguments_mapInfo hf (.node info ts :: above) ts
      have hwalk := Tree.walk_mapInfo f above (.node info ts)
      rw [List.map_cons, Tree.mapInfo] at hfirst harguments
      rw [Tree.mapInfo] at hwalk
      rw [Tree.mapInfo, targetsIn, targetsIn, hf.kind, hfirst, harguments, hwalk]
      split
      · cases targetsOfFirst? g (.node info ts :: above) ts <;> simp [Node.mapInfo, Tree.mapInfo]
      · split
        · rfl
        · split
          · simp only [List.filter_map, Function.comp_def, Node.isAny_mapInfo hf]
          · simp [Node.mapInfo, Tree.mapInfo]

theorem targetsOfFirst?_mapInfo (hf : NodeInfo.KeepsShape f) (above ts : List Tree) :
    targetsOfFirst? g (above.map (Tree.mapInfo f)) (Tree.mapInfoAll f ts) =
      (targetsOfFirst? g above ts).map (List.map (Node.mapInfo f)) := by
  cases ts with
  | nil => simp [Tree.mapInfoAll, targetsOfFirst?]
  | cons t ts =>
      rw [Tree.mapInfoAll, targetsOfFirst?, targetsOfFirst?, Tree.isToken_mapInfo hf,
        targetsIn_mapInfo hf above t, targetsOfFirst?_mapInfo hf above ts]
      split <;> rfl

theorem targetsOfArguments_mapInfo (hf : NodeInfo.KeepsShape f) (above ts : List Tree) :
    targetsOfArguments g (above.map (Tree.mapInfo f)) (Tree.mapInfoAll f ts) =
      (targetsOfArguments g above ts).map (Node.mapInfo f) := by
  cases ts with
  | nil => simp [Tree.mapInfoAll, targetsOfArguments]
  | cons t ts =>
      rw [Tree.mapInfoAll, targetsOfArguments, targetsOfArguments, Tree.isToken_mapInfo hf,
        Tree.info_mapInfo, hf.kind, targetsOfArgument_mapInfo hf above t,
        targetsOfArguments_mapInfo hf above ts, List.map_append]
      split <;> rfl

theorem targetsOfArgument_mapInfo (hf : NodeInfo.KeepsShape f) (above : List Tree) (t : Tree) :
    targetsOfArgument g (above.map (Tree.mapInfo f)) (t.mapInfo f) =
      (targetsOfArgument g above t).map (Node.mapInfo f) := by
  cases t with
  | node info ts =>
      have hrole := targetsInRole?_mapInfo hf (.node info ts :: above) ts
      have hlast := targetsOfLast?_mapInfo hf (.node info ts :: above) ts
      rw [List.map_cons, Tree.mapInfo] at hrole hlast
      rw [Tree.mapInfo, targetsOfArgument, targetsOfArgument, hrole, hlast]
      cases targetsInRole? g (.node info ts :: above) ts with
      | some found => rfl
      | none => cases targetsOfLast? g (.node info ts :: above) ts <;> rfl

theorem targetsInRole?_mapInfo (hf : NodeInfo.KeepsShape f) (above ts : List Tree) :
    targetsInRole? g (above.map (Tree.mapInfo f)) (Tree.mapInfoAll f ts) =
      (targetsInRole? g above ts).map (List.map (Node.mapInfo f)) := by
  cases ts with
  | nil => simp [Tree.mapInfoAll, targetsInRole?]
  | cons t ts =>
      rw [Tree.mapInfoAll, targetsInRole?, targetsInRole?, Tree.info_mapInfo, hf.role,
        targetsIn_mapInfo hf above t, targetsInRole?_mapInfo hf above ts]
      split <;> rfl

theorem targetsOfLast?_mapInfo (hf : NodeInfo.KeepsShape f) (above ts : List Tree) :
    targetsOfLast? g (above.map (Tree.mapInfo f)) (Tree.mapInfoAll f ts) =
      (targetsOfLast? g above ts).map (List.map (Node.mapInfo f)) := by
  cases ts with
  | nil => simp [Tree.mapInfoAll, targetsOfLast?]
  | cons t ts =>
      rw [Tree.mapInfoAll, targetsOfLast?, targetsOfLast?, Tree.isToken_mapInfo hf,
        targetsIn_mapInfo hf above t, targetsOfLast?_mapInfo hf above ts]
      cases targetsOfLast? g above ts with
      | some found => rfl
      | none => simp only [Option.map_none]; split <;> rfl

end

include hf

@[simp] theorem targets_mapInfo (n : Node) :
    g.targets (n.mapInfo f) = (g.targets n).map (Node.mapInfo f) := by
  rw [targets, targets, left?_mapInfo hf]
  cases g.left? n with
  | none => rfl
  | some left => exact targetsIn_mapInfo g hf left.above left.tree

@[simp] theorem isLeftSide_mapInfo (n : Node) : g.isLeftSide (n.mapInfo f) = g.isLeftSide n := by
  rw [isLeftSide, isLeftSide, climb_mapInfo hf, Node.parent?_mapInfo]
  cases (g.climb n).parent? with
  | none => rfl
  | some p =>
      simp [Option.any_map, hf]

/-! ## Values of expressions -/

@[simp] theorem type?_mapInfo (n : Node) : g.type? (n.mapInfo f) = g.type? n := by
  simp [type?, literalType?, hf.type, hf]

@[simp] theorem constant?_mapInfo (n : Node) : g.constant? (n.mapInfo f) = g.constant? n := by
  simp [constant?, hf.constant, hf]

@[simp] theorem isConstant_mapInfo (n : Node) : g.isConstant (n.mapInfo f) = g.isConstant n := by
  simp [isConstant, hf]

@[simp] theorem isStringLiteral_mapInfo (n : Node) :
    g.isStringLiteral (n.mapInfo f) = g.isStringLiteral n := by
  simp [isStringLiteral, hf]

omit hf in
@[simp] theorem literalText?_mapInfo (hf : NodeInfo.KeepsSyntax f) (g : Grammar) (n : Node) :
    g.literalText? (n.mapInfo f) = g.literalText? n := by
  rw [literalText?, literalText?, Node.isAny_mapInfo hf.toKeepsShape,
    Node.firstToken?_mapInfo hf.toKeepsShape]
  cases n.firstToken? with
  | none => rfl
  | some token => simp only [Option.map_some, Option.bind_some, Node.text_mapInfo hf]

omit hf in
@[simp] theorem stringValue?_mapInfo (hf : NodeInfo.KeepsSyntax f) (g : Grammar) (n : Node) :
    g.stringValue? (n.mapInfo f) = g.stringValue? n := by
  simp [stringValue?, hf, hf.toKeepsShape]

/-- The argument in the tree with other things carried. -/
def Argument.mapInfo (f : NodeInfo → NodeInfo) (a : Argument) : Argument :=
  ⟨a.expression.mapInfo f, a.isConstant⟩

@[simp] theorem arguments?_mapInfo (n : Node) :
    g.arguments? (n.mapInfo f) = (g.arguments? n).map (List.map (Argument.mapInfo f)) := by
  have hlist : (n.mapInfo f).children.find? (fun c => c.isAny g.argumentList) =
      (n.children.find? fun c => c.isAny g.argumentList).map (Node.mapInfo f) := by
    simp only [Node.children_mapInfo, List.find?_map, Function.comp_def, Node.isAny_mapInfo hf]
  rw [arguments?, arguments?, Node.isAny_mapInfo hf, hlist]
  split
  · rw [Option.map_map, Option.map_map]
    congr 1
    funext list
    simp only [Function.comp_apply, Node.childNodes_mapInfo hf, List.filter_map, Function.comp_def,
      Node.isAny_mapInfo hf, List.filterMap_map, argumentExpression?_mapInfo hf, List.map_map,
      ← List.map_filterMap, isConstant_mapInfo hf, Argument.mapInfo]
  · rfl

@[simp] theorem isPositionalRecord_mapInfo (n : Node) :
    g.isPositionalRecord (n.mapInfo f) = g.isPositionalRecord n := by
  simp [isPositionalRecord, hf]

omit g

@[simp] theorem hasModifier_mapInfo (n : Node) (kind : String) :
    hasModifier (n.mapInfo f) kind = hasModifier n kind := by
  simp [hasModifier, Function.comp_def, hf]

/-- The comments of a body are those that stand around the replaced tokens at its ends. -/
theorem hasDelimiterComment_mapInfo (body : Node) :
    hasDelimiterComment (body.mapInfo f) =
      ((body.children.head?.bind Node.lastToken?).any (fun t => hasComment (f t.info).trailing) ||
        (body.children.getLast?.bind Node.firstToken?).any
          fun t => hasComment (f t.info).leading) := by
  have hopening : ((body.mapInfo f).children.head?.bind Node.lastToken?) =
      (body.children.head?.bind Node.lastToken?).map (Node.mapInfo f) := by
    rw [Node.children_mapInfo, List.head?_map]
    cases body.children.head? with
    | none => rfl
    | some c => exact Node.lastToken?_mapInfo hf c
  have hclosing : ((body.mapInfo f).children.getLast?.bind Node.firstToken?) =
      (body.children.getLast?.bind Node.firstToken?).map (Node.mapInfo f) := by
    rw [Node.children_mapInfo, List.getLast?_map]
    cases body.children.getLast? with
    | none => rfl
    | some c => exact Node.firstToken?_mapInfo hf c
  simp only [hasDelimiterComment, hopening, hclosing, Option.any_map, Node.info_mapInfo]

theorem hasDelimiterComment_mapInfo_of_comments (hcomments : ∀ i, (f i).comments = i.comments)
    (body : Node) : hasDelimiterComment (body.mapInfo f) = hasDelimiterComment body := by
  have hleading : ∀ i, hasComment (f i).leading = hasComment i.leading :=
    fun i => congrArg Prod.fst (hcomments i)
  have htrailing : ∀ i, hasComment (f i).trailing = hasComment i.trailing :=
    fun i => congrArg Prod.snd (hcomments i)
  rw [hasDelimiterComment_mapInfo hf]
  simp only [hleading, htrailing, hasDelimiterComment]

end Grammar
end TreeLint
