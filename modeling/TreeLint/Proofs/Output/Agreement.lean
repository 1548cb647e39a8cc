import TreeLint.Output.Formatter
import TreeLint.Proofs.Engine.Spelling
import TreeLint.Proofs.Json.RoundTrip
import TreeLint.Proofs.Output.Grouping
import TreeLint.Proofs.Report.Rearranging

/-!
# Agreement of the formats

Whatever an engine finds is told by all three formats. A reader of JSON output gets one entry for
each diagnostic, in either layout. A reader of a log gets one result for each diagnostic, which
points at its rule in the list of rules of the engine. Text output cuts the diagnostics into groups
and leaves them in their order.

**Results.**
* `Engine.Produces.presentable`: the diagnostics of an engine are sorted, and they are of its rules
  or of unreadable files.
* `entry_reread`, `result_reread`: what is read back from a single diagnostic.
* `Output.jsonTells`, `Output.logTells`, `Output.textTells`: what each format says of a summary.
* `Engine.formats_agree`: the three formats report the same findings.
-/

namespace TreeLint

open Json Report Rule Source Syntax

/-! ## What an engine produces -/

namespace Report

/-- Diagnostics in order, each of a rule of the catalogue or of an unreadable file. -/
structure Summary.Presentable (s : Summary) : Prop where
  rising : s.diagnostics.Pairwise fun d e => Diagnostic.le d e = true
  known : ∀ d ∈ s.diagnostics, d.ruleId ∈ catalogueIds ∨ d.ruleId = Engine.unreadableRule

namespace Summary

theorem presentable_of_diagnostics_eq_nil {s : Summary} (h : s.diagnostics = []) :
    s.Presentable where
  rising := by
    rw [h]
    exact List.Pairwise.nil
  known := by simp [h]

theorem presentable_of_diagnostics_eq_sort {s : Summary} {ds : List Diagnostic}
    (h : s.diagnostics = Diagnostic.sort ds)
    (hknown : ∀ d ∈ ds, d.ruleId ∈ catalogueIds ∨ d.ruleId = Engine.unreadableRule) :
    s.Presentable where
  rising := by
    rw [h]
    exact List.pairwise_map.mp (Diagnostic.pairwise_map_sortKey_sort ds)
  known := by
    intro d hd
    rw [h] at hd
    exact hknown d ((Diagnostic.sort_perm ds).mem_iff.mp hd)

theorem presentable_ofFiles {ss : List Summary} (h : ∀ s ∈ ss, s.Presentable) :
    (ofFiles ss).Presentable := by
  apply presentable_of_diagnostics_eq_sort (diagnostics_ofFiles ss)
  intro d hd
  obtain ⟨s, hs, hd⟩ := List.mem_flatMap.mp hd
  exact (h s hs).known d hd

/-- Presentable diagnostics stand in the order of their paths. -/
theorem Presentable.paths {s : Summary} (h : s.Presentable) :
    s.diagnostics.Pairwise fun d e => (Path.cmp d.path e.path).isLE = true :=
  h.rising.imp fun hle => (Ordering.isLE_then_iff_and.mp hle).1

end Summary
end Report

namespace Engine

variable {e : Engine} {s : Summary}

/-- The summaries of an engine: of a unit, of a file or of several ones, under any watches and
however long it took. -/
inductive Produces (e : Engine) : Summary → Prop
  | unit (w : Watch) (u : SourceUnit) : Produces e (e.watchUnit w u)
  | units (us : List (Watch × SourceUnit)) : Produces e (e.watchUnits us)
  | file (files : Path.FileTree) (w : Watch) (path : String) :
      Produces e (e.watchFile files w path)
  | files (files : Path.FileTree) (paths : List (Watch × String)) :
      Produces e (e.watchFiles files paths)
  | lasting {s : Summary} (h : Produces e s) (duration : Nat) :
      Produces e { s with duration := duration }

theorem presentable_watchUnit (w : Watch) (u : SourceUnit) : (e.watchUnit w u).Presentable := by
  unfold watchUnit
  split
  · exact Summary.presentable_of_diagnostics_eq_nil rfl
  · split
    · exact Summary.presentable_of_diagnostics_eq_nil rfl
    · apply Summary.presentable_of_diagnostics_eq_sort rfl
      intro d hd
      obtain ⟨found, hfound, rfl⟩ := List.mem_map.mp hd
      have hrule : found.ruleId ∈ catalogueIds := mem_catalogue_of_mem_runsOver hfound
      exact .inl hrule

theorem presentable_watchFile (files : Path.FileTree) (w : Watch) (path : String) :
    (e.watchFile files w path).Presentable := by
  unfold watchFile
  split
  · exact Summary.presentable_of_diagnostics_eq_nil rfl
  · split
    · exact presentable_watchUnit w.next _
    · rename_i cause _
      constructor
      · exact List.pairwise_singleton _ _
      · intro d hd
        rw [List.mem_singleton.mp hd]
        exact .inr rfl

/-- What an engine finds is sorted, and it is of a rule or of an unreadable file. -/
theorem Produces.presentable (h : e.Produces s) : s.Presentable := by
  induction h with
  | unit w u => exact presentable_watchUnit w u
  | units us =>
      apply Summary.presentable_ofFiles
      rw [List.forall_mem_map]
      exact fun u _ => presentable_watchUnit u.1 u.2
  | file files w path => exact presentable_watchFile files w path
  | files files paths =>
      apply Summary.presentable_ofFiles
      rw [List.forall_mem_map]
      exact fun p _ => presentable_watchFile files p.1 p.2
  | lasting _ duration ih => exact ⟨ih.rising, ih.known⟩

end Engine

/-! ## What is read back -/

namespace Output

/-- An entry of JSON output that tells a diagnostic. Its positions are read as they are if they are
numbers of 64 bits. -/
structure Entry (d : Diagnostic) (v : Value) : Prop where
  ruleId : v.field? "rule_id" = some (.string d.ruleId)
  severity : v.field? "severity" = some (.string d.severity.name)
  message : v.field? "message" = some (.string d.message)
  file : v.field? "file" = some (.string d.path)
  line : d.span.start.line ≤ maxNatural → v.field? "line" = some (.nat d.span.start.line)
  column : d.span.start.column ≤ maxNatural → v.field? "column" = some (.nat d.span.start.column)
  endLine : d.span.stop.line ≤ maxNatural → v.field? "end_line" = some (.nat d.span.stop.line)
  endColumn :
    d.span.stop.column ≤ maxNatural → v.field? "end_column" = some (.nat d.span.stop.column)
  help : v.field? "help" = d.help.map Value.string

/-- A result in a log that tells a diagnostic, and points at its rule if that is one of the rules of
the log. -/
structure Result (rules : List Descriptor) (d : Diagnostic) (v : Value) : Prop where
  ruleId : v.field? "ruleId" = some (.string d.ruleId)
  message : (v.field? "message").bind (Value.field? "text") = some (.string d.message)
  pointed : d.ruleId ≠ Engine.unreadableRule →
    ∃ i rule, v.field? "ruleIndex" = some (.nat i) ∧ rules[i]? = some rule ∧ rule.id = d.ruleId
  unpointed : d.ruleId = Engine.unreadableRule → v.field? "ruleIndex" = none

theorem forall₂_reread {α : Type} {r : α → Value → Prop} {f : α → Value} {l : List α}
    (h : ∀ a ∈ l, r a (f a).reread) : List.Forall₂ r l ((l.map f).map Value.reread) := by
  simpa using h

/-! ### JSON output -/

theorem fits_diagnosticValue (depth : Nat) (d : Diagnostic) :
    (diagnosticValue d).Fits (depth + 1) := by
  simp [diagnosticValue]

theorem fits_summaryValue (depth : Nat) (s : Summary) : (summaryValue s).Fits (depth + 3) := by
  simp [summaryValue, countsValue, fits_diagnosticValue]

/-- The entry of a diagnostic is read back. -/
theorem entry_reread (d : Diagnostic) : Entry d (diagnosticValue d).reread := by
  have hfield : ∀ name, (diagnosticValue d).reread.field? name =
      ((diagnosticValue d).field? name).map Value.reread := Value.field?_reread _
  have htext : ∀ name text, (diagnosticValue d).field? name = some (.string text) →
      (diagnosticValue d).reread.field? name = some (.string text) := by
    intro name text h
    rw [hfield, h]
    rfl
  have hnat : ∀ name n, (diagnosticValue d).field? name = some (.nat n) → n ≤ maxNatural →
      (diagnosticValue d).reread.field? name = some (.nat n) := by
    intro name n h hn
    rw [hfield, h, Option.map_some, Value.reread_nat, readNatural_of_le hn]
  constructor
  · exact htext "rule_id" _ rfl
  · exact htext "severity" _ rfl
  · exact htext "message" _ rfl
  · exact htext "file" _ rfl
  · exact hnat "line" _ rfl
  · exact hnat "column" _ rfl
  · exact hnat "end_line" _ rfl
  · exact hnat "end_column" _ rfl
  · -- the help is the last field, and left out if there is none
    rw [hfield]
    cases hhelp : d.help with
    | none =>
        rw [diagnosticValue, hhelp]
        rfl
    | some help =>
        rw [diagnosticValue, hhelp]
        rfl

/-- The entries of a summary are read back. -/
theorem entries_reread (s : Summary) :
    ∃ entries, (summaryValue s).reread.field? "diagnostics" = some (.array entries) ∧
      List.Forall₂ Entry s.diagnostics entries := by
  refine ⟨_, ?_, forall₂_reread fun d _ => entry_reread d⟩
  rw [summaryValue, Value.field?_reread, ← Value.reread_array]
  rfl

/-! ### Logs -/

theorem fits_ruleValue (depth : Nat) (d : Descriptor) : (ruleValue d).Fits (depth + 2) := by
  simp [ruleValue, messageValue]

theorem fits_regionValue (depth : Nat) (r : Region) : (regionValue r).Fits (depth + 1) := by
  cases hstop : r.stop <;> simp [regionValue, hstop]

theorem fits_locationValue (depth : Nat) (d : Diagnostic) :
    (locationValue d).Fits (depth + 3) := by
  simp [locationValue, fits_regionValue]

theorem fits_resultValue (depth : Nat) (rules : List Descriptor) (d : Diagnostic) :
    (resultValue rules d).Fits (depth + 5) := by
  simp [resultValue, messageValue, fits_locationValue, or_imp, forall_and]

theorem fits_sarifValue (depth : Nat) (tool : Tool) (s : Summary) :
    (sarifValue tool s).Fits (depth + 9) := by
  simp [sarifValue, fits_ruleValue, fits_resultValue]

theorem ruleIndex?_eq_none {rules : List Descriptor} {d : Diagnostic}
    (h : d.ruleId ∉ rules.map Descriptor.id) : ruleIndex? rules d = none := by
  rw [ruleIndex?, List.findIdx?_eq_none_iff]
  intro rule hrule
  rw [beq_eq_false_iff_ne]
  exact fun hid => h (List.mem_map.mpr ⟨rule, hrule, hid⟩)

theorem exists_ruleIndex?_eq_some {rules : List Descriptor} {d : Diagnostic}
    (h : d.ruleId ∈ rules.map Descriptor.id) :
    ∃ i rule, ruleIndex? rules d = some i ∧ rules[i]? = some rule ∧ rule.id = d.ruleId := by
  cases hindex : ruleIndex? rules d with
  | none =>
      obtain ⟨rule, hrule, hid⟩ := List.mem_map.mp h
      have hother := List.findIdx?_eq_none_iff.mp hindex rule hrule
      rw [beq_eq_false_iff_ne] at hother
      exact absurd hid hother
  | some i =>
      obtain ⟨hi, hid, -⟩ := List.findIdx?_eq_some_iff_getElem.mp hindex
      exact ⟨i, rules[i], rfl, List.getElem?_eq_getElem hi, beq_iff_eq.mp hid⟩

theorem field?_ruleIndex (rules : List Descriptor) (d : Diagnostic) :
    (resultValue rules d).field? "ruleIndex" = (ruleIndex? rules d).map Value.nat := by
  cases hindex : ruleIndex? rules d with
  | none =>
      rw [resultValue, hindex]
      rfl
  | some i =>
      rw [resultValue, hindex]
      rfl

/-- The result of a diagnostic is read back. -/
theorem result_reread {d : Diagnostic}
    (h : d.ruleId ∈ catalogueIds ∨ d.ruleId = Engine.unreadableRule) :
    Result catalogue d (resultValue catalogue d).reread := by
  have hfield : ∀ name, (resultValue catalogue d).reread.field? name =
      ((resultValue catalogue d).field? name).map Value.reread := Value.field?_reread _
  have hmessage : (resultValue catalogue d).field? "message" = some (messageValue d.message) := by
    cases hindex : ruleIndex? catalogue d <;> rw [resultValue, hindex] <;> rfl
  constructor
  · rw [hfield]
    rfl
  · rw [hfield, hmessage]
    rfl
  · intro hne
    obtain ⟨i, rule, hindex, hrule, hid⟩ := exists_ruleIndex?_eq_some (h.resolve_right hne)
    have hi : i ≤ maxNatural := by
      have hlength : i < catalogue.length := (List.getElem?_eq_some_iff.mp hrule).1
      have hcatalogue : catalogue.length ≤ maxNatural := by decide
      omega
    refine ⟨i, rule, ?_, hrule, hid⟩
    simp [hfield, field?_ruleIndex, hindex, readNatural_of_le hi]
  · intro heq
    have hunknown : d.ruleId ∉ catalogueIds := by
      rw [heq]
      decide
    rw [hfield, field?_ruleIndex, ruleIndex?_eq_none hunknown]
    rfl

/-- A run in a log that lists rules and tells diagnostics. -/
structure LogRun (rules : List Descriptor) (ds : List Diagnostic) (run : Value) : Prop where
  results : ∃ results, run.field? "results" = some (.array results) ∧
    List.Forall₂ (Result rules) ds results
  rules : ∃ listed,
    ((run.field? "tool").bind (Value.field? "driver")).bind (Value.field? "rules") =
      some (.array listed) ∧
    List.Forall₂ (fun rule v => v.field? "id" = some (.string rule.id)) rules listed

/-- The only run in a log is read back. -/
theorem run_reread {s : Summary} (h : s.Presentable) (name version : String) :
    ∃ run, (sarifValue ⟨name, version, catalogue⟩ s).reread.field? "runs" = some (.array [run]) ∧
      LogRun catalogue s.diagnostics run := by
  have hresults : List.Forall₂ (Result catalogue) s.diagnostics
      ((s.diagnostics.map (resultValue catalogue)).map Value.reread) :=
    forall₂_reread fun d hd => result_reread (h.known d hd)
  have hrules : List.Forall₂ (fun rule v => v.field? "id" = some (.string rule.id)) catalogue
      ((catalogue.map ruleValue).map Value.reread) :=
    forall₂_reread fun _ _ => rfl
  refine ⟨_, rfl, ⟨_, ?_, hresults⟩, ⟨_, ?_, hrules⟩⟩
  · rw [Value.field?_reread, ← Value.reread_array]
    rfl
  · rw [Value.field?_reread, ← Value.reread_array]
    rfl

/-! ### Text output -/

/-- A diagnostic without styles: a line, and one for its help if that is asked for. -/
def plainText (help : Bool) (d : Diagnostic) : String :=
  d.path ++ ":" ++ toString d.span.start.line ++ ":" ++ toString d.span.start.column ++ ": " ++
    d.severity.name ++ "[" ++ d.ruleId ++ "]: " ++ d.message ++ "\n" ++
    if help then (d.help.map fun text => "   = help: " ++ text ++ "\n").getD "" else ""

theorem diagnosticText_plain (help statistics : Bool) (d : Diagnostic) :
    TextOptions.diagnosticText ⟨false, help, statistics⟩ d = plainText help d := by
  have hseverity :
      TextOptions.severityText ⟨false, help, statistics⟩ d.severity = d.severity.name := by
    cases d.severity <;> rfl
  have hhelp : TextOptions.helpText ⟨false, help, statistics⟩ d =
      if help then (d.help.map fun text => "   = help: " ++ text ++ "\n").getD "" else "" := by
    unfold TextOptions.helpText
    cases d.help with
    | none => cases help <;> rfl
    | some text => rfl
  rw [TextOptions.diagnosticText, hseverity, hhelp]
  rfl

/-- A group without styles: the path above its diagnostics, and an empty line below them. -/
def plainGroup (help : Bool) (g : FileGroup) : String :=
  g.path ++ "\n" ++ String.join (g.diagnostics.map (plainText help)) ++ "\n"

theorem groupText_plain (help statistics : Bool) (g : FileGroup) :
    TextOptions.groupText ⟨false, help, statistics⟩ g = plainGroup help g := by
  rw [TextOptions.groupText, funext (diagnosticText_plain help statistics)]
  rfl

end Output

/-! ## Agreement -/

namespace Output

/-- JSON output tells what a summary lists: both layouts are read as one value, which has an entry
for each diagnostic, in their order. -/
def JsonTells (s : Summary) : Prop :=
  ∃ output entries,
    read? ((Formatter.json false).summaryText s).toList = some output ∧
    read? ((Formatter.json true).summaryText s).toList = some output ∧
    output.field? "diagnostics" = some (.array entries) ∧
    List.Forall₂ Entry s.diagnostics entries

/-- A log over some rules tells what a summary lists: it has one run, with these rules and with a
result for each diagnostic, in their order. -/
def LogTells (rules : List Descriptor) (s : Summary) : Prop :=
  ∀ name version, ∃ log run,
    read? ((Formatter.sarif ⟨name, version, rules⟩).summaryText s).toList = some log ∧
    log.field? "runs" = some (.array [run]) ∧
    LogRun rules s.diagnostics run

/-- Text output without styles tells what a summary lists: it is made of groups, one for each path,
and the diagnostics of one group after another are all diagnostics in their order. -/
def TextTells (s : Summary) : Prop :=
  ∀ help statistics, ∃ groups,
    Groups s.diagnostics groups ∧
    (Formatter.text ⟨false, help, statistics⟩).summaryText s =
      String.join (groups.map (plainGroup help)) ++
        if statistics then TextOptions.statisticsText ⟨false, help, statistics⟩ s else ""

theorem jsonTells (s : Summary) : JsonTells s := by
  obtain ⟨entries, hentries, htell⟩ := entries_reread s
  have hfits : (summaryValue s).Fits maxDepth := fits_summaryValue 124 s
  exact ⟨_, entries, read?_compact hfits, read?_pretty hfits, hentries, htell⟩

theorem logTells {s : Summary} (h : s.Presentable) : LogTells catalogue s := by
  intro name version
  have hfits : (sarifValue ⟨name, version, catalogue⟩ s).Fits maxDepth := fits_sarifValue 118 _ s
  obtain ⟨run, hrun, htell⟩ := run_reread h name version
  exact ⟨_, run, read?_pretty hfits, hrun, htell⟩

theorem textTells {s : Summary} (h : s.Presentable) : TextTells s := by
  intro help statistics
  refine ⟨groupByFile s.diagnostics, groups_groupByFile s.diagnostics h.paths, ?_⟩
  rw [Formatter.summaryText, TextOptions.summaryText, funext (groupText_plain help statistics)]

end Output

namespace Engine

/-- All formats report the same findings, in the same order, of whatever an engine produces. -/
theorem formats_agree {e : Engine} {s : Summary} (h : e.Produces s) :
    Output.JsonTells s ∧ Output.LogTells e.rules s ∧ Output.TextTells s := by
  have hrules : e.rules = catalogue := registeredDescriptors_eq_catalogue e.settings
  rw [hrules]
  exact ⟨Output.jsonTells s, Output.logTells h.presentable, Output.textTells h.presentable⟩

/-- Of the standard engine, units with a method without statements and files that are not there; one
path is spelled in two ways. -/
theorem formats_agree_spelledTwice :
    let e : Engine := ⟨Config.standard, Settings.standard, Glob.isMatch, false⟩
    let unit (path : String) : Watch × SourceUnit :=
      (.steady false, { emptyMethod with path := path })
    let found := e.watchUnits [unit "src/Empty.cs", unit "src//Empty.cs"]
    let unread := e.watchFiles ⟨[], [], none⟩
      [(.steady false, "A.json"), (.steady false, "src/B.json"), (.steady false, "src//B.json")]
    let shown (s : Summary) := s.diagnostics.map fun d => (d.ruleId, d.path)
    let groups (s : Summary) :=
      (Output.groupByFile s.diagnostics).map fun g => (g.path, g.diagnostics.length)
    (shown found = [("S1186", "src/Empty.cs"), ("S1186", "src//Empty.cs")] ∧
      groups found = [("src/Empty.cs", 2)] ∧
      e.Produces found ∧
      Output.JsonTells found ∧ Output.LogTells e.rules found ∧ Output.TextTells found) ∧
    shown unread =
        [("parse-error", "A.json"), ("parse-error", "src/B.json"), ("parse-error", "src//B.json")] ∧
      groups unread = [("A.json", 1), ("src/B.json", 2)] ∧
      e.Produces unread ∧
      Output.JsonTells unread ∧ Output.LogTells e.rules unread ∧ Output.TextTells unread := by
  intro e unit found unread shown groups
  let finding (path : String) : Diagnostic :=
    ⟨"S1186", .warning, EmptyMethod.descriptor.message, path, ⟨⟨1, 1⟩, ⟨1, 2⟩⟩,
      some EmptyMethod.descriptor.title⟩
  let missing (path : String) : Diagnostic := unreadableFile path .unreadable
  have hfindings : found.diagnostics = [finding "src/Empty.cs", finding "src//Empty.cs"] := by
    have hall : ([unit "src/Empty.cs", unit "src//Empty.cs"].map fun u =>
        e.watchUnit u.1 u.2).flatMap Summary.diagnostics =
          [finding "src/Empty.cs", finding "src//Empty.cs"] := by
      decide +kernel
    refine (Summary.diagnostics_ofFiles_of_pairwise ?_).trans hall
    rw [hall]
    decide +kernel
  have hmissing : unread.diagnostics =
      [missing "A.json", missing "src/B.json", missing "src//B.json"] := by
    refine (Summary.diagnostics_ofFiles_of_pairwise ?_).trans rfl
    decide +kernel
  have hfound : e.Produces found := .units _
  have hunread : e.Produces unread := .files _ _
  obtain ⟨hjson, hlog, htext⟩ := formats_agree hfound
  obtain ⟨kjson, klog, ktext⟩ := formats_agree hunread
  refine ⟨⟨?_, ?_, hfound, hjson, hlog, htext⟩, ?_, ?_, hunread, kjson, klog, ktext⟩
  · simp only [shown, hfindings]
    rfl
  · simp only [groups, hfindings]
    decide +kernel
  · simp only [shown, hmissing]
    rfl
  · simp only [groups, hmissing]
    decide +kernel

end Engine
end TreeLint
