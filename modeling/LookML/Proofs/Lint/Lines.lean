import LookML.Library
import LookML.Proofs.Evaluation.Lines
import LookML.Proofs.Lint.Locations
import LookML.Report.Text
/-!
# Lines of a report

A report in text has a line for each violation and one more for what the violation is about, then
an empty line and a line of counts. It reads back as these lines exactly if none of them has a line
feed in it. And so it is unless a name, a path, an option or a complaint of the SQL parser has one:
a name may, as it may be a quoted string, and reports show names as they are written.
-/

namespace LookML

/-! ## Reports as text -/

/-- What the lines of the violation are made of keeps to one line. -/
structure Violation.InLine (v : Violation) : Prop where
  path : OneLine v.path
  rule : OneLine v.rule.text
  message : OneLine v.message
  entity : ∀ e ∈ v.entity, OneLine e

theorem Severity.oneLine_word (severity : Severity) : OneLine severity.word := by
  cases severity <;> decide

theorem Violation.oneLine_render {v : Violation} :
    OneLine v.render ↔ OneLine v.path ∧ OneLine v.rule.text ∧ OneLine v.message := by
  have hplace : OneLine v.place ↔ OneLine v.path := by
    unfold place
    split <;> simp +decide
  simp +decide [render, hplace, Severity.oneLine_word, and_assoc]

theorem Violation.inLine_iff {v : Violation} :
    v.InLine ↔ ∀ line ∈ Report.violationLines v, OneLine line := by
  have hindent : ∀ e : String, OneLine s!"    in {e}" ↔ OneLine e := by
    simp +decide
  have hentity : (∀ line ∈ (v.entity.map fun e => s!"    in {e}").toList, OneLine line) ↔
      ∀ e ∈ v.entity, OneLine e := by
    cases v.entity <;> simp +decide
  rw [Report.violationLines, List.forall_mem_cons, oneLine_render, hentity]
  constructor
  · exact fun h => ⟨⟨h.path, h.rule, h.message⟩, h.entity⟩
  · exact fun h => ⟨h.1.1, h.1.2.1, h.1.2.2, h.2⟩

section Terminated

variable {α : Type} (x : α) (ls : List (List α))

theorem flatMap_terminated : ls.flatMap (· ++ [x]) = [x].intercalate (ls ++ [[]]) := by
  induction ls with
  | nil => rfl
  | cons first others ih =>
    have hne : others ++ [[]] ≠ [] := List.append_ne_nil_of_right_ne_nil _ (List.cons_ne_nil _ _)
    obtain ⟨next, rest, hnext⟩ := List.exists_cons_of_ne_nil hne
    rw [List.flatMap_cons, ih, List.cons_append, hnext, List.intercalate_cons_cons]

theorem count_flatMap_terminated [DecidableEq α] :
    (ls.flatMap (· ++ [x])).count x = ls.length + ls.flatten.count x := by
  induction ls with
  | nil => rfl
  | cons first others ih =>
    rw [List.flatMap_cons, List.count_append, List.count_append, List.count_singleton_self, ih,
      List.length_cons, List.flatten_cons, List.count_append]
    omega

end Terminated

namespace Report

/-- The lines of a report: one for each violation and one for what it is about, if it is about
something, an empty line if there are violations, and the line of counts. -/
def lineCount (r : Report) : Nat :=
  r.violations.length + r.violations.countP (·.entity.isSome) +
    (if r.violations.isEmpty then 0 else 1) + 1

/-- The line feeds that stand in the lines of the violations. -/
def breaks (r : Report) : Nat :=
  ((r.violations.flatMap violationLines).flatMap String.toList).count '\n'

/-- The text has just these lines. -/
structure IsLined (r : Report) : Prop where
  split : r.text.toList.splitOn '\n' = r.lines.map String.toList ++ [[]]
  count : r.text.toList.count '\n' = r.lineCount

theorem length_flatMap_violationLines (violations : List Violation) :
    (violations.flatMap violationLines).length =
      violations.length + violations.countP (·.entity.isSome) := by
  induction violations with
  | nil => rfl
  | cons v violations ih =>
    rw [List.flatMap_cons, List.length_append, ih, List.length_cons, List.countP_cons]
    cases h : v.entity <;> simp [violationLines, h] <;> omega

variable (r : Report)

theorem length_lines : r.lines.length = r.lineCount := by
  rw [lines, List.length_append, List.length_append, length_flatMap_violationLines, lineCount]
  split <;> rfl

theorem toList_text : r.text.toList = (r.lines.map String.toList).flatMap (· ++ ['\n']) := by
  rw [text, String.toList_join, List.flatMap_map, List.flatMap_map]
  exact List.flatMap_congr fun line _ => String.toList_append

theorem oneLine_summaryLine : OneLine r.summaryLine := by
  simp +decide [summaryLine]

theorem count_text : r.text.toList.count '\n' = r.lineCount + r.breaks := by
  have hsummary : r.summaryLine.toList.count '\n' = 0 := List.count_eq_zero.2 r.oneLine_summaryLine
  have hlines : (r.lines.flatMap String.toList).count '\n' = r.breaks := by
    rw [lines, List.flatMap_append, List.flatMap_append, List.count_append, List.count_append,
      List.flatMap_singleton, hsummary, breaks]
    split <;> rfl
  rw [toList_text, count_flatMap_terminated, List.length_map, length_lines, ← List.flatMap_def,
    hlines]

theorem forall_mem_lines :
    (∀ line ∈ r.lines, OneLine line) ↔ ∀ v ∈ r.violations, v.InLine := by
  have hempty : ∀ line ∈ (if r.violations.isEmpty then [] else [""] : List String),
      OneLine line := by
    split
    · nofun
    · exact List.forall_mem_singleton.2 (by decide)
  simp only [Violation.inLine_iff]
  constructor
  · intro h v hv line hline
    have hmem := List.mem_flatMap.2 ⟨v, hv, hline⟩
    exact h line (List.mem_append_left _ (List.mem_append_left _ hmem))
  · intro h line hline
    rcases List.mem_append.1 hline with hline | hline
    · rcases List.mem_append.1 hline with hline | hline
      · obtain ⟨v, hv, hline⟩ := List.mem_flatMap.1 hline
        exact h v hv line hline
      · exact hempty line hline
    · exact List.mem_singleton.1 hline ▸ r.oneLine_summaryLine

theorem isLined_iff : r.IsLined ↔ ∀ v ∈ r.violations, v.InLine := by
  have hbreaks : r.breaks = 0 ↔ ∀ v ∈ r.violations, v.InLine := by
    rw [breaks, List.count_eq_zero, List.flatMap_assoc]
    simp only [Violation.inLine_iff, OneLine, List.mem_flatMap, not_exists, not_and]
  constructor
  · intro h
    have hcount := r.count_text
    rw [h.count] at hcount
    exact hbreaks.1 (by omega)
  · intro h
    refine ⟨?_, by rw [count_text, hbreaks.2 h, Nat.add_zero]⟩
    rw [toList_text, flatMap_terminated]
    apply List.splitOn_intercalate
    · rw [List.forall_mem_append, List.forall_mem_map, List.forall_mem_singleton]
      exact ⟨r.forall_mem_lines.2 h, List.not_mem_nil⟩
    · exact List.append_ne_nil_of_right_ne_nil _ (List.cons_ne_nil _ _)

end Report

/-! ## Violations -/

namespace Violation

theorem inLine_finding {f : Finding} (h : f.InLine) (hpath : OneLine f.location.path)
    {rule : RuleId} (hrule : OneLine rule.text) (severity : Severity) :
    (f.toViolation rule severity).InLine :=
  ⟨hpath, hrule, h.message, h.entity⟩

theorem inLine_resolutionError {e : ResolutionError} (h : e.InLine)
    (hlocated : e.Located fun l => OneLine l.path) : e.toViolation.InLine := by
  refine ⟨hlocated.location, ?_, ResolutionError.oneLine_message h hlocated.first, ?_⟩
  · cases e <;> simp +decide [ResolutionError.toViolation, ResolutionError.ruleId, finding]
  · rintro _ ⟨⟩
    exact ResolutionError.oneLine_entity h

theorem inLine_syntaxError {e : SyntaxError} (hpath : OneLine e.path)
    (htexts : ∀ text ∈ e.cause.texts, OneLine text) : e.toViolation.InLine := by
  have hcause := SyntaxError.Cause.oneLine_describe htexts
  have hcode : OneLine e.cause.code := by
    cases e.cause <;> simp +decide [SyntaxError.Cause.code]
  refine ⟨hpath, (by decide : OneLine SyntaxError.ruleId.text), ?_, nofun⟩
  simp +decide [SyntaxError.toViolation, SyntaxError.message, finding, hpath, hcause, hcode]

end Violation

/-! ## Runs -/

section Runs

variable [SqlParser]

theorem Violation.inLine_timedOut {p : Project} (hp : p.InLine) {t : Task p}
    (hrule : OneLine t.rule.id.text) (milliseconds : Nat) : (t.faultViolation (.timedOut milliseconds)).InLine := by
  obtain ⟨hname, hentity, hpath⟩ := t.target.oneLine_subject hp
  refine ⟨hpath, hrule, ?_, hentity⟩
  simp +decide [Task.faultViolation, Fault.toViolation, Fault.message, finding, hrule, hname,
    Magnitude.oneLine_render]

/-- The path, the names that stand in the file and the complaints about its SQL keep to one line. -/
structure Source.InLine (s : Source) : Prop where
  path : OneLine s.path
  names : ∀ d, s.parse = .ok d → d.NamesInLine
  complaints : ∀ d, s.parse = .ok d → d.ComplaintsInLine
  broken : ∀ e, s.parse = .error e → ∀ text ∈ e.cause.texts, OneLine text

namespace Source

variable {s : Source}

/-- Names are words or quoted strings, and a word has no line feed. -/
theorem inLine_of_quoted (hpath : OneLine s.path)
    (hquoted : ∀ ts, Token.scan s.path s.text = .ok ts → ∀ t ∈ ts, ∀ text,
      t.kind = .quoted text → OneLine text)
    (hcomplaints : ∀ d, s.parse = .ok d → d.ComplaintsInLine) : s.InLine where
  path := hpath
  names := by
    intro d hparse
    obtain ⟨ts, hscan, _⟩ := parse_eq_ok.1 hparse
    exact (Document.inLine_of_parse hparse hscan (hquoted ts hscan)).names
  complaints := hcomplaints
  broken := fun _ hparse => Document.oneLine_of_parse_error hparse hquoted

theorem InLine.shown (h : s.InLine) {d : Document} (hparse : s.parse = .ok d) : d.Shown where
  names := h.names d hparse
  path := by
    obtain ⟨_, _, _, rfl⟩ := Document.exists_items_of_parse hparse
    exact h.path
  located := located_of_parse hparse fun _ _ _ => h.path
  complaints := h.complaints d hparse

theorem InLine.syntaxError (h : s.InLine) {e : SyntaxError} (hparse : s.parse = .error e) :
    e.toViolation.InLine := by
  refine Violation.inLine_syntaxError ?_ (h.broken e hparse)
  obtain ⟨_, hs, _, hpath, _⟩ :=
    (Violation.isIn_syntaxError (List.mem_singleton_self s) hparse).place
  cases List.mem_singleton.1 hs
  exact (hpath ▸ h.path : OneLine e.toViolation.path)

end Source

namespace Project

/-- Built-in rules find what keeps to one line, or else run out of time. -/
theorem inLine_evaluate {p : Project} (hp : p.InLine) {options : RuleOptions}
    {pattern : String → Bool} {r : Registry}
    (hr : ∀ rule ∈ r.rules, rule ∈ Rules.builtIn options pattern)
    (hoptions : options.InLine) (levels : Levels) (limit : Nat) {outcome : Task p → Outcome}
    (houtcome : ∀ t, outcome t = t.outcome limit ∨ ∃ ms, outcome t = .fault (.timedOut ms)) :
    ∀ v ∈ p.evaluate r levels outcome, v.InLine := by
  intro v hv
  rw [evaluate_eq, (Violation.sort_perm _ _).mem_iff] at hv
  obtain ⟨w, hw, hlevel⟩ := List.mem_filterMap.1 hv
  obtain ⟨t, ht, hw⟩ := List.mem_flatMap.1 hw
  obtain ⟨rule, hmem, ht⟩ := List.mem_flatMap.1 ht
  obtain rfl := Rule.rule_of_mem_tasks ht
  have hrule := hr t.rule hmem
  have hinline : w.InLine := by
    rcases houtcome t with hout | ⟨ms, hout⟩
    · have hfound : w ∈ (t.rule.tasks p).flatMap fun t => t.violations (t.outcome limit) :=
        List.mem_flatMap.2 ⟨t, ht, hout ▸ hw⟩
      rw [(Rules.reportsAtOnce_builtIn hrule).flatMap_tasks] at hfound
      obtain ⟨f, hf, rfl⟩ := List.mem_map.1 hfound
      have hlocated := Rules.locates_builtIn hrule p hp.located f hf
      exact Violation.inLine_finding (Rules.keepsLines_builtIn hrule hoptions p hp f hf)
        hlocated.location (Rules.oneLine_id hrule) _
    · rw [hout] at hw
      cases List.mem_singleton.1 hw
      exact Violation.inLine_timedOut hp (Rules.oneLine_id hrule) ms
  rw [Levels.eq_of_relabel? hlevel]
  exact ⟨hinline.path, hinline.rule, hinline.message, hinline.entity⟩

end Project

/-! ## Main statement -/

/-- No two lines of a report run into one another, and none breaks in two, unless a name, a path, an
option or a complaint of the SQL parser has a line feed in it. -/
theorem lint_isLined [Extends.ComponentFinder] {options : RuleOptions}
    {pattern : String → Bool} {r : Registry}
    (hr : ∀ rule ∈ r.rules, rule ∈ Rules.builtIn options pattern) (levels : Levels) (limit : Nat)
    {outcome : {p : Project} → Task p → Outcome}
    (houtcome : ∀ {p : Project} (t : Task p),
      outcome t = t.outcome limit ∨ ∃ ms, outcome t = .fault (.timedOut ms))
    (sources : List Source) (least : Severity) {report : Report}
    (hreport : report = (lint sources r levels outcome).atLeast least) :
    report.text.toList.count '\n' = report.lineCount + report.breaks ∧
      (report.IsLined ↔ ∀ v ∈ report.violations, v.InLine) ∧
      ((∀ s ∈ sources, s.InLine) → options.InLine → report.IsLined) := by
  refine ⟨report.count_text, report.isLined_iff, fun hsources hoptions => ?_⟩
  subst hreport
  have hdocuments : ∀ d ∈ Source.documents sources, d.Shown := by
    intro d hd
    obtain ⟨s, hs, hparse⟩ := Source.exists_of_mem_documents hd
    exact (hsources s hs).shown hparse
  refine (Report.isLined_iff _).2 fun v hv => ?_
  have hv := (List.mem_filter.1 hv).1
  rw [(violations_lint_perm r levels outcome sources).mem_iff] at hv
  rcases List.mem_append.1 hv with hv | hv
  · rcases List.mem_append.1 hv with hv | hv
    · obtain ⟨e, he, rfl⟩ := List.mem_map.1 hv
      obtain ⟨s, hs, hparse⟩ := Source.exists_of_mem_errors he
      exact (hsources s hs).syntaxError hparse
    · obtain ⟨e, he, rfl⟩ := List.mem_map.1 hv
      have hblocks : ∀ b ∈ (Source.documents sources).flatMap Document.blocks, b.KeepsLines :=
        List.forall_mem_flatMap.2 fun d hd => (hdocuments d hd).names.keepsLines
      have hlocated := Project.located_errors (fun d hd => (hdocuments d hd).located) e he
      exact Violation.inLine_resolutionError (Project.inLine_errors hblocks e he) hlocated
  · have hproject := Project.inLine_build hdocuments
    exact Project.inLine_evaluate hproject hr hoptions levels limit houtcome v hv

/-- What a built-in rule reports on its own about a file without problems. -/
theorem violations_lint_singleton [Extends.ComponentFinder] {s : Source} {d : Document}
    (hparse : s.parse = .ok d) (hproblems : (Project.build [d]).2 = []) {options : RuleOptions}
    {pattern : String → Bool} {rule : Rule} (hrule : rule ∈ Rules.builtIn options pattern)
    (limit : Nat) :
    (lint [s] ⟨[rule], List.nodup_singleton _⟩ [] (Task.outcome limit)).violations.Perm
      ((rule.findings (Project.build [d]).1).map fun f => f.toViolation rule.id rule.severity) := by
  have hdocuments : Source.documents [s] = [d] := by
    simp [Source.documents, hparse, Except.toOption]
  have herrors : Source.errors [s] = [] := by
    simp [Source.errors, hparse]
  have hreported :=
    violations_lint_perm ⟨[rule], List.nodup_singleton _⟩ [] (Task.outcome limit) [s]
  have hr : ∀ r ∈ [rule], r ∈ Rules.builtIn options pattern := List.forall_mem_singleton.2 hrule
  rw [hdocuments, herrors, hproblems, Project.evaluate_eq,
    Rules.flatMap_tasks (r := ⟨[rule], List.nodup_singleton _⟩) hr, Levels.apply_nil,
    List.flatMap_singleton] at hreported
  exact hreported.trans (Violation.sort_perm _ _)

end Runs

/-! ## SQL that does not parse -/

def refusal : String :=
  "sql parser error: Expected: an SQL statement, found: SELEC at Line: 1, Column: 1"

@[reducible]
def refusingParser : SqlParser where
  parse _ := .error refusal

def refusedFile : Source := ⟨"d.view.lkml", "view: d { derived_table: { sql: SELEC 1 ;; } }"⟩

open Grammar in
def refusedItems : List Grammar.Item :=
  let span (start stop : Nat) : Span := ⟨⟨1, start⟩, ⟨1, stop⟩⟩
  let sql := .expression "sql" (span 28 31) (span 31 32) "SELEC 1" (span 33 43)
  let derived := .anonymous "derived_table" (span 11 24) (span 24 25)
    (.mk (span 26 27) [sql] (span 44 45))
  [.named "view" (span 1 5) (span 5 6) (.word "d" (span 7 8))
    (.mk (span 9 10) [derived] (span 46 47))]

theorem scan_refusedFile : Token.scan refusedFile.path refusedFile.text =
    .ok (Grammar.itemTokens refusedItems ++ [⟨.endOfInput, ⟨1, 47⟩, ⟨1, 47⟩⟩]) := by
  decide +kernel

theorem parse_refusedFile :
    refusedFile.parse = .ok (Grammar.document refusedFile.path refusedItems) :=
  Document.parse_of_scan scan_refusedFile rfl (Nat.le_of_ble_eq_true rfl)

def refusedRules : Registry := ⟨[@Rules.derivedTableSql refusingParser], List.nodup_singleton _⟩

theorem mem_builtIn_refusedRules :
    ∀ rule ∈ refusedRules.rules, rule ∈ @Rules.builtIn refusingParser .standard fun _ => false :=
  List.forall_mem_singleton.2 (by simp [Rules.builtIn])

theorem exists_violation_refusedFile :
    ∃ v ∈ (lint [refusedFile, brokenFile] refusedRules [] (Task.outcome 1000)).violations,
      v.severity = .warning ∧
        v.message = s!"derived_table SQL of view 'd' does not parse: {refusal}" := by
  let _ := refusingParser
  have hfinding : ∃ f ∈ Rules.derivedTableSql.findings
      (Project.build [Grammar.document refusedFile.path refusedItems]).1,
      f.message = s!"derived_table SQL of view 'd' does not parse: {refusal}" := by
    decide +kernel
  obtain ⟨f, hf, hmessage⟩ := hfinding
  have hreported := violations_lint_singleton parse_refusedFile (by decide +kernel)
    (mem_builtIn_refusedRules _ (List.mem_singleton_self _)) 1000
  have hbroken : lint ([refusedFile] ++ [brokenFile]) refusedRules [] (Task.outcome 1000) = _ :=
    lint_of_error refusedRules [] (Task.outcome 1000) parse_brokenFile
  rw [List.singleton_append] at hbroken
  refine ⟨f.toViolation Rules.derivedTableSql.id .warning, ?_, rfl, hmessage⟩
  rw [hbroken, (Violation.sort_perm _ _).mem_iff]
  exact List.mem_cons_of_mem _ (hreported.mem_iff.2 (List.mem_map_of_mem hf))

/-- A run over a file whose SQL is refused and one that does not parse. -/
theorem lint_isLined_refusedFile :
    (∀ s ∈ [refusedFile, brokenFile], @Source.InLine refusingParser s) ∧
      RuleOptions.standard.InLine ∧
      ∃ report, report =
          (lint [refusedFile, brokenFile] refusedRules [] (Task.outcome 1000)).atLeast .info ∧
        (∃ v ∈ report.violations,
          v.message = s!"derived_table SQL of view 'd' does not parse: {refusal}") ∧
        report.IsLined := by
  let _ := refusingParser
  have hcomplaints : ∀ d : Document, d.ComplaintsInLine := by
    rintro d view _ sql _ complaint ⟨⟩
    decide
  have hsources : ∀ s ∈ [refusedFile, brokenFile], s.InLine := by
    refine forall_mem_pair.2
      ⟨Source.inLine_of_quoted (by decide) (fun ts hscan => ?_) fun d _ => hcomplaints d,
        Source.inLine_of_quoted (by decide) (fun ts hscan => ?_) fun d _ => hcomplaints d⟩
    · cases scan_refusedFile.symm.trans hscan
      simp [refusedItems, Grammar.itemTokens, Grammar.Item.tokens, Grammar.Scalar.token,
        Grammar.Body.tokens, Grammar.Span.token]
    · have hbroken : Token.scan brokenFile.path brokenFile.text = .error brokenFileError := by
        decide +kernel
      cases hbroken.symm.trans hscan
  obtain ⟨_, _, hlined⟩ := lint_isLined mem_builtIn_refusedRules [] 1000 (fun _ => .inl rfl)
    [refusedFile, brokenFile] .info rfl
  obtain ⟨v, hv, hwarning, hmessage⟩ := exists_violation_refusedFile
  exact ⟨hsources, RuleOptions.inLine_standard, _, rfl,
    ⟨v, List.mem_filter.2 ⟨hv, by rw [hwarning]; rfl⟩, hmessage⟩,
    hlined hsources RuleOptions.inLine_standard⟩

/-! ## Names with a line feed -/

def splitName : Source := ⟨"a.lkml", "view: \"a\nb\" {}\n"⟩

def orphansOnly : Registry := ⟨[Rules.noOrphans], List.nodup_singleton _⟩

open Grammar in
def splitNameItems : List Grammar.Item :=
  [.named "view" ⟨⟨1, 1⟩, ⟨1, 5⟩⟩ ⟨⟨1, 5⟩, ⟨1, 6⟩⟩ (.quoted "a\nb" ⟨⟨1, 7⟩, ⟨2, 3⟩⟩)
    (.mk ⟨⟨2, 4⟩, ⟨2, 5⟩⟩ [] ⟨⟨2, 5⟩, ⟨2, 6⟩⟩)]

theorem parse_splitName :
    splitName.parse = .ok (Grammar.document splitName.path splitNameItems) := by
  have hscan : Token.scan splitName.path splitName.text =
      .ok (Grammar.itemTokens splitNameItems ++ [⟨.endOfInput, ⟨3, 1⟩, ⟨3, 1⟩⟩]) := by
    decide +kernel
  exact Document.parse_of_scan hscan rfl (Nat.le_of_ble_eq_true rfl)

def splitNameViolation : Violation where
  rule := Rules.noOrphans.id
  severity := .info
  origin := .lint
  message := "view 'a\nb' is not used by any explore, join or extends"
  path := "a.lkml"
  line := some 1
  column := some 1
  entity := some "view:a\nb"
  related := []

theorem violations_splitName :
    (lint [splitName] orphansOnly [] (Task.outcome 1000)).violations = [splitNameViolation] := by
  have hreported := violations_lint_singleton parse_splitName (by decide +kernel)
    (by simp [Rules.builtIn] : Rules.noOrphans ∈ Rules.builtIn .standard fun _ => false) 1000
  have hfound : (Rules.noOrphansFindings
      (Project.build [Grammar.document splitName.path splitNameItems]).1).map
        (fun f => f.toViolation Rules.noOrphans.id Rules.noOrphans.severity) =
          [splitNameViolation] := by
    decide +kernel
  rw [Rules.noOrphans, Rule.findings_ofProject] at hreported
  exact List.perm_singleton.1 (hreported.trans (.of_eq hfound))

def splitNameReport : Report :=
  (lint [splitName] orphansOnly [] (Task.outcome 1000)).atLeast .info

/-- The name breaks the line of the violation and the one below it, so that the report has six lines
and not four. -/
theorem not_isLined_splitName :
    splitNameReport.lineCount = 4 ∧ splitNameReport.text.toList.count '\n' = 6 ∧
      ¬ splitNameReport.IsLined := by
  have hviolations : splitNameReport.violations = [splitNameViolation] := by
    rw [splitNameReport, Report.atLeast, violations_splitName]
    rfl
  have hlines : splitNameReport.lineCount = 4 := by
    rw [Report.lineCount, hviolations]
    rfl
  have hbreaks : splitNameReport.breaks = 2 := by
    rw [Report.breaks, hviolations]
    decide +kernel
  have hcount : splitNameReport.text.toList.count '\n' = 6 := by
    rw [Report.count_text, hlines, hbreaks]
  refine ⟨hlines, hcount, fun h => ?_⟩
  have hlined := h.count
  omega

end LookML
