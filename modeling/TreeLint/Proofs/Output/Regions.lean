import TreeLint.Proofs.Output.Agreement
import TreeLint.Proofs.Syntax.Covering

/-!
# Regions of a log

Each result of a log has a region. The start of a region is moved into the text where a diagnostic
starts in line or column zero, but its end is told as it is. So an end can lie outside the text, or
in front of the start that was moved.

**Results.**
* `logRegions_sarifValue`: the regions in a log are those of the diagnostics, in their order.
* `valid_regionOf_iff`: when the region of a span is one of a text.
* `logRegions_start_and_valid_iff`: every region starts in the text, and which ones are valid.
-/

namespace TreeLint

open Json Report Rule Source Syntax

namespace Output

/-! ## The regions in a log -/

/-- The items of a field that holds an array. -/
def itemsOf (name : String) (v : Value) : List Value :=
  ((v.field? name).bind Value.array?).getD []

/-- The regions in a log: those at the locations of the results of its runs. -/
def logRegions (log : Value) : List Value :=
  (((itemsOf "runs" log).flatMap (itemsOf "results")).flatMap (itemsOf "locations")).filterMap
    fun location => (location.field? "physicalLocation").bind (Value.field? "region")

/-- The number in a field. -/
def natOf? (name : String) (v : Value) : Option Nat :=
  match v.field? name with
  | some (.number (.natural n)) => some n
  | _ => none

/-- The region that a value tells: a start, and an end with both of its numbers or none. -/
def readRegion? (v : Value) : Option Region := do
  let startLine ← natOf? "startLine" v
  let startColumn ← natOf? "startColumn" v
  match v.field? "endLine", v.field? "endColumn" with
  | none, none => some ⟨startLine, startColumn, none⟩
  | _, _ => do
    let endLine ← natOf? "endLine" v
    let endColumn ← natOf? "endColumn" v
    some ⟨startLine, startColumn, some ⟨endLine, endColumn⟩⟩

@[simp] theorem readRegion?_regionValue (r : Region) : readRegion? (regionValue r) = some r := by
  obtain ⟨startLine, startColumn, stop⟩ := r
  cases stop <;> rfl

@[simp] theorem itemsOf_locations (rules : List Descriptor) (d : Diagnostic) :
    itemsOf "locations" (resultValue rules d) = [locationValue d] := by
  cases hindex : ruleIndex? rules d <;> rw [resultValue, hindex] <;> rfl

/-- The regions in a log are those of the diagnostics, in their order. -/
theorem logRegions_sarifValue (tool : Tool) (s : Summary) :
    logRegions (sarifValue tool s) = s.diagnostics.map fun d => regionValue (regionOf d.span) := by
  have hresults : (itemsOf "runs" (sarifValue tool s)).flatMap (itemsOf "results") =
      s.diagnostics.map (resultValue tool.rules) := List.append_nil _
  have hlocations : (s.diagnostics.map (resultValue tool.rules)).flatMap (itemsOf "locations") =
      s.diagnostics.map locationValue := by
    rw [List.flatMap_map, funext (itemsOf_locations tool.rules), ← List.map_eq_flatMap]
  rw [logRegions, hresults, hlocations, List.filterMap_map, ← List.filterMap_eq_map]
  rfl

/-! ### Reading a log back -/

@[simp] theorem itemsOf_reread (name : String) (v : Value) :
    itemsOf name v.reread = (itemsOf name v).map Value.reread := by
  rw [itemsOf, itemsOf, Value.field?_reread_eq]
  cases v.field? name with
  | none => rfl
  | some w =>
      cases hitems : w.array? <;> simp [hitems]

/-- The regions are read back with the log. -/
theorem logRegions_reread (log : Value) :
    logRegions log.reread = (logRegions log).map Value.reread := by
  have hstep (name : String) (vs : List Value) :
      (vs.map Value.reread).flatMap (itemsOf name) =
        (vs.flatMap (itemsOf name)).map Value.reread := by
    simp [List.flatMap_map, List.map_flatMap]
  rw [logRegions, logRegions, itemsOf_reread, hstep, hstep, List.filterMap_map,
    List.map_filterMap]
  congr 1
  funext location
  rw [Function.comp_apply, Value.field?_reread_eq]
  cases location.field? "physicalLocation" with
  | none => rfl
  | some w => exact Value.field?_reread_eq w "region"

/-- A region with numbers of 64 bits is read back as it is. -/
theorem reread_regionValue_regionOf {span : Span} (h : ∀ n ∈ span.numbers, n ≤ maxNatural) :
    (regionValue (regionOf span)).reread = regionValue (regionOf span) := by
  have hone : 1 ≤ maxNatural := by decide
  obtain ⟨hstartLine, hstartColumn, hstopLine, hstopColumn⟩ :
      span.start.line ≤ maxNatural ∧ span.start.column ≤ maxNatural ∧
        span.stop.line ≤ maxNatural ∧ span.stop.column ≤ maxNatural := by
    simpa [Span.numbers] using h
  rw [regionValue, Value.reread_object]
  by_cases hbefore : span.start.before span.stop = true <;>
    simp [regionOf, Value.reread_nat, readNatural_of_le, *]

/-! ## Valid regions -/

/-- The start of a region. -/
def Region.start (r : Region) : Position :=
  ⟨r.startLine, r.startColumn⟩

/-- A region of a text: all lines and columns are counted from one, and the end is not before the
start. -/
structure Region.Valid (r : Region) : Prop where
  startLine : 1 ≤ r.startLine
  startColumn : 1 ≤ r.startColumn
  endLine : ∀ p ∈ r.stop, 1 ≤ p.line
  endColumn : ∀ p ∈ r.stop, 1 ≤ p.column
  ordered : ∀ p ∈ r.stop, p.before r.start = false

/-- The end of a span is told as the end of a region only if it is behind the start. It has to be a
position of a text then, and not to lie before a start that is moved from line zero to its own. -/
def EndsInText (s : Span) : Prop :=
  s.start.before s.stop = true → 1 ≤ s.stop.line ∧ 1 ≤ s.stop.column ∧
    (s.start.line = 0 → s.stop.line = 1 → s.start.column ≤ s.stop.column)

theorem start_regionOf (s : Span) : 1 ≤ (regionOf s).startLine ∧ 1 ≤ (regionOf s).startColumn :=
  ⟨Nat.le_max_right _ _, Nat.le_max_right _ _⟩

theorem mem_stop_regionOf_iff {s : Span} {p : Position} :
    p ∈ (regionOf s).stop ↔ s.start.before s.stop = true ∧ s.stop = p := by
  simp [regionOf]

theorem valid_regionOf_iff (s : Span) : (regionOf s).Valid ↔ EndsInText s := by
  have hstart : (regionOf s).start = ⟨max s.start.line 1, max s.start.column 1⟩ := rfl
  constructor
  · intro h hbefore
    have hstop : s.stop ∈ (regionOf s).stop := mem_stop_regionOf_iff.mpr ⟨hbefore, rfl⟩
    refine ⟨h.endLine _ hstop, h.endColumn _ hstop, fun hzero hone => ?_⟩
    have hordered := h.ordered _ hstop
    rw [hstart, ← Bool.not_eq_true, Position.before_iff, not_or] at hordered
    have hcolumns := hordered.2
    rw [hzero, hone] at hcolumns
    have hle : max s.start.column 1 ≤ s.stop.column := by
      by_contra hlt
      exact hcolumns ⟨rfl, Nat.lt_of_not_le hlt⟩
    omega
  · intro h
    obtain ⟨hline, hcolumn⟩ := start_regionOf s
    have hends : ∀ p ∈ (regionOf s).stop, 1 ≤ p.line ∧ 1 ≤ p.column ∧
        p.before (regionOf s).start = false := by
      intro p hp
      obtain ⟨hbefore, rfl⟩ := mem_stop_regionOf_iff.mp hp
      obtain ⟨hendLine, hendColumn, hmoved⟩ := h hbefore
      refine ⟨hendLine, hendColumn, ?_⟩
      rw [Position.before_iff] at hbefore
      rw [hstart, ← Bool.not_eq_true, Position.before_iff]
      dsimp only
      omega
    exact ⟨hline, hcolumn, fun p hp => (hends p hp).1, fun p hp => (hends p hp).2.1,
      fun p hp => (hends p hp).2.2⟩

/-! ## Logs -/

/-- Every region in a log starts in the text, and it is valid just if its diagnostic ends in the
text where it has an end; so it is for diagnostics that start in line one or later and end in column
one or later. A reader of the log gets these regions if all positions are numbers of 64 bits. -/
theorem logRegions_start_and_valid_iff (tool : Tool) (s : Summary) :
    let regions := logRegions (sarifValue tool s)
    List.Forall₂ (fun d v => ∃ r, readRegion? v = some r ∧ 1 ≤ r.startLine ∧ 1 ≤ r.startColumn ∧
        (r.Valid ↔ EndsInText d.span)) s.diagnostics regions ∧
      ((∀ d ∈ s.diagnostics, 1 ≤ d.span.start.line ∧ 1 ≤ d.span.stop.column) →
        ∀ v ∈ regions, ∃ r, readRegion? v = some r ∧ r.Valid) ∧
      ((∀ d ∈ s.diagnostics, ∀ n ∈ d.span.numbers, n ≤ maxNatural) →
        ∃ log, read? ((Formatter.sarif tool).summaryText s).toList = some log ∧
          logRegions log = regions) := by
  intro regions
  have hregions : regions = s.diagnostics.map fun d => regionValue (regionOf d.span) :=
    logRegions_sarifValue tool s
  refine ⟨?_, ?_, ?_⟩
  · rw [hregions, List.forall₂_map_right_iff, List.forall₂_same]
    intro d _
    obtain ⟨hline, hcolumn⟩ := start_regionOf d.span
    exact ⟨regionOf d.span, readRegion?_regionValue _, hline, hcolumn, valid_regionOf_iff d.span⟩
  · intro h v hv
    rw [hregions] at hv
    obtain ⟨d, hd, rfl⟩ := List.mem_map.mp hv
    refine ⟨regionOf d.span, readRegion?_regionValue _, (valid_regionOf_iff d.span).mpr ?_⟩
    intro hbefore
    obtain ⟨hline, hcolumn⟩ := h d hd
    rw [Position.before_iff] at hbefore
    exact ⟨by omega, hcolumn, by omega⟩
  · intro h
    have hfits : (sarifValue tool s).Fits maxDepth := fits_sarifValue 118 tool s
    refine ⟨_, read?_pretty hfits, ?_⟩
    rw [logRegions_reread]
    change regions.map Value.reread = regions
    simpa [hregions] using List.map_congr_left fun d hd => reread_regionValue_regionOf (h d hd)

/-- A name that starts and ends in line zero: the start is moved, the end stays in front of it. -/
theorem not_valid_lineZero :
    let e : Engine := ⟨Config.standard, Settings.standard, Glob.isMatch, false⟩
    let info (id : NodeId) (kind : String) (text : Option String) (span : Span) : NodeInfo :=
      ⟨id, kind, none, text, span, [], [], none, none, none, none⟩
    let name : Tree := .node (info 1 "IdentifierToken" (some "F") ⟨⟨0, 0⟩, ⟨0, 5⟩⟩) []
    let body : Tree := .node (info 2 "Block" none ⟨⟨1, 2⟩, ⟨1, 2⟩⟩) []
    let method : Tree := .node (info 0 "MethodDeclaration" none ⟨⟨0, 0⟩, ⟨1, 2⟩⟩) [name, body]
    let unit : SourceUnit :=
      ⟨"Empty.cs", .csharp, false, false, method, Symbols.SymbolTable.empty⟩
    let log := sarifValue ⟨"netlint", "0.1.0", e.rules⟩ (e.analyze [unit])
    let region : Region := ⟨1, 1, some ⟨0, 5⟩⟩
    logRegions log = [regionValue region] ∧ readRegion? (regionValue region) = some region ∧
      ¬ region.Valid := by
  intro e info name body method unit log region
  have hspans : (e.analyze [unit]).diagnostics.map Diagnostic.span = [⟨⟨0, 0⟩, ⟨0, 5⟩⟩] := by
    decide +kernel
  refine ⟨?_, readRegion?_regionValue region, fun hvalid => ?_⟩
  · rw [logRegions_sarifValue]
    change (e.analyze [unit]).diagnostics.map ((fun span => regionValue (regionOf span)) ∘
      Diagnostic.span) = _
    rw [← List.map_map, hspans]
    rfl
  · exact absurd (hvalid.endLine ⟨0, 5⟩ rfl) (by decide)

end Output
end TreeLint
