import LookML.Proofs.Lint.Selection
/-!
# Linting at other levels

A level that silences no rule gives its findings another severity and does nothing else. Severity is
one of the keys that violations are sorted by, and yet the report keeps its order: findings of one
rule have one severity, and a diagnostic is an error, so that it comes after any finding with which
it is compared by severity at all. So two runs that differ in their levels alone report the same
violations in the same places.
-/

namespace LookML

/-- A comparison that comes second counts only where the first one finds no difference. -/
theorem Ordering.then_congr {a b b' : Ordering} (h : a = .eq → b = b') : a.then b = a.then b' := by
  cases a with
  | lt => rfl
  | eq => exact h rfl
  | gt => rfl

/-! ## Levels that silence nothing -/

namespace Levels

/-- No rule is turned off. -/
def SilencesNone (levels : Levels) : Prop :=
  ∀ id, levels.allows id = true

def relabel (levels : Levels) (v : Violation) : Violation :=
  (levels.relabel? v).getD v

variable {levels levels' : Levels} {v : Violation}

theorem relabel_eq_with (levels : Levels) (v : Violation) :
    levels.relabel v = { v with severity := (levels.relabel v).severity } := by
  unfold relabel
  cases h : levels.relabel? v with
  | none => rfl
  | some w => exact eq_of_relabel? h

theorem relabel_of_ne_lint (h : v.origin ≠ .lint) : levels.relabel v = v := by
  have hdiagnostic : v.origin.isDiagnostic = true := by simpa [Origin.isDiagnostic] using h
  rw [relabel, relabel?, if_pos hdiagnostic, Option.getD_some]

theorem severity_relabel (h : v.origin = .lint) :
    (levels.relabel v).severity =
      ((levels.level? v.rule.text).bind Level.severity?).getD v.severity := by
  unfold relabel relabel?
  rw [h, if_neg (by decide)]
  cases levels.level? v.rule.text with
  | none => rfl
  | some level => cases level <;> rfl

theorem apply_eq_map (h : levels.SilencesNone) (violations : List Violation) :
    levels.apply violations = violations.map levels.relabel := by
  have hsome : ∀ v, levels.relabel? v = some (levels.relabel v) := by
    intro v
    have hallowed : levels.level? v.rule.text ≠ some .off := by simpa [allows] using h v.rule.text
    unfold relabel relabel?
    split
    · rfl
    · split
      · rfl
      · contradiction
      · rfl
  rw [apply, funext hsome, List.filterMap_eq_map']

end Levels

/-! ## Reports whose order does not hang on severities -/

/-- Diagnostics are errors, and all findings of a rule have the same severity. -/
structure Violation.Graded (violations : List Violation) : Prop where
  diagnostics : ∀ v ∈ violations, v.origin ≠ .lint → v.severity = .error
  findings : ∀ v ∈ violations, ∀ w ∈ violations, v.origin = .lint → w.origin = .lint →
    v.rule = w.rule → v.severity = w.severity

theorem Severity.rank_le_error (s : Severity) : s.rank ≤ error.rank := by
  cases s <;> decide

namespace Violation

variable {violations : List Violation} {levels : Levels} {v w : Violation}

/-- Of the keys by which two violations with the same rule, place and message are compared, those
that are a matter of grade and origin. -/
def gradeOrder (v w : Violation) : Ordering :=
  (compare v.severity.rank w.severity.rank).then (compare v.origin.rank w.origin.rank)

theorem gradeOrder_finding_diagnostic (hv : v.origin = .lint) (hw : w.origin ≠ .lint)
    (hseverity : w.severity = .error) : gradeOrder v w = .lt := by
  have horigin : compare v.origin.rank w.origin.rank = .lt := by
    rw [hv]
    cases hcase : w.origin <;> first | rfl | exact absurd hcase hw
  have hrank : compare v.severity.rank w.severity.rank ≠ .gt := by
    rw [hseverity, Nat.compare_ne_gt]
    exact v.severity.rank_le_error
  unfold gradeOrder
  rw [horigin]
  cases hcompare : compare v.severity.rank w.severity.rank with
  | gt => exact absurd hcompare hrank
  | lt | eq => rfl

theorem gradeOrder_swap (v w : Violation) : gradeOrder v w = (gradeOrder w v).swap := by
  unfold gradeOrder
  rw [Ordering.swap_then, ← Std.OrientedCmp.eq_swap, ← Std.OrientedCmp.eq_swap]

theorem gradeOrder_relabel (hgraded : Graded violations) (hv : v ∈ violations)
    (hw : w ∈ violations) (hrule : v.rule = w.rule) :
    gradeOrder (levels.relabel v) (levels.relabel w) = gradeOrder v w := by
  have horigin : ∀ v, (levels.relabel v).origin = v.origin := fun v => by
    rw [levels.relabel_eq_with v]
  by_cases hlint : v.origin = .lint <;> by_cases hlint' : w.origin = .lint
  · -- Findings of one rule have one severity before and one after.
    have hbefore := hgraded.findings v hv w hw hlint hlint' hrule
    have hafter : (levels.relabel v).severity = (levels.relabel w).severity := by
      rw [Levels.severity_relabel hlint, Levels.severity_relabel hlint', hrule, hbefore]
    simp only [gradeOrder, horigin, hbefore, hafter, Std.ReflCmp.compare_self]
  · have herror := hgraded.diagnostics w hw hlint'
    rw [Levels.relabel_of_ne_lint hlint', gradeOrder_finding_diagnostic hlint hlint' herror]
    exact gradeOrder_finding_diagnostic ((horigin v).trans hlint) hlint' herror
  · have herror := hgraded.diagnostics v hv hlint
    rw [Levels.relabel_of_ne_lint hlint, gradeOrder_swap, gradeOrder_swap v,
      gradeOrder_finding_diagnostic hlint' hlint herror]
    rw [gradeOrder_finding_diagnostic ((horigin w).trans hlint') hlint herror]
  · rw [Levels.relabel_of_ne_lint hlint, Levels.relabel_of_ne_lint hlint']

theorem order_relabel (hgraded : Graded violations) (paths : List String)
    (hv : v ∈ violations) (hw : w ∈ violations) :
    order paths (levels.relabel v) (levels.relabel w) = order paths v w := by
  have hgrade : v.rule = w.rule →
      gradeOrder (levels.relabel v) (levels.relabel w) = gradeOrder v w :=
    gradeOrder_relabel hgraded hv hw
  unfold gradeOrder at hgrade
  rw [levels.relabel_eq_with v, levels.relabel_eq_with w] at hgrade ⊢
  unfold order
  dsimp only at hgrade ⊢
  refine Ordering.then_congr fun _ => Ordering.then_congr fun _ => Ordering.then_congr fun _ =>
    Ordering.then_congr fun hrule => Ordering.then_congr fun _ => Ordering.then_congr fun _ =>
    Ordering.then_congr fun _ => ?_
  have hsame := Identifier.text_injective (Std.LawfulEqCmp.eq_of_compare hrule)
  rw [← Ordering.then_assoc, hgrade hsame, Ordering.then_assoc]

theorem sort_map_relabel (hgraded : Graded violations) (paths : List String) (levels : Levels) :
    sort paths (violations.map levels.relabel) = (sort paths violations).map levels.relabel := by
  refine (List.map_mergeSort fun v hv w hw => ?_).symm
  rw [order_relabel hgraded paths hv hw]

/-- One violation for another one that differs in no more than its severity, and even in that only
if it is a finding of a rule that the two choices of levels do not treat alike. -/
structure DiffersInLevel (levels levels' : Levels) (v w : Violation) : Prop where
  rest : w = { v with severity := w.severity }
  severity : v.severity ≠ w.severity →
    v.origin = .lint ∧ levels.level? v.rule.text ≠ levels'.level? v.rule.text

theorem differsInLevel_relabel (levels levels' : Levels) (v : Violation) :
    DiffersInLevel levels levels' (levels.relabel v) (levels'.relabel v) := by
  constructor
  · rw [levels.relabel_eq_with v, levels'.relabel_eq_with v]
  · intro hne
    have hlint : v.origin = .lint := by
      by_contra hlint
      rw [Levels.relabel_of_ne_lint hlint, Levels.relabel_of_ne_lint hlint] at hne
      exact hne rfl
    rw [Levels.severity_relabel hlint, Levels.severity_relabel hlint] at hne
    rw [levels.relabel_eq_with v]
    exact ⟨hlint, fun hsame => hne (by rw [hsame])⟩

end Violation

/-! ## What a run puts together -/

section Report

open Violation

variable {p : Project} {r : Registry}

/-- Wherever a rule of the registry is pointed in the project, it reports findings of its own, at
its own severity, unless it does not finish. -/
def Registry.ReportsFindings (r : Registry) (outcome : Task p → Outcome) : Prop :=
  ∀ t ∈ r.tasks p, ∀ violations, outcome t = .found violations →
    ∃ findings : List Finding,
      violations = findings.map fun f => f.toViolation t.rule.id t.rule.severity

theorem Registry.reportsFindings_outcome (r : Registry) (limit : Nat) :
    r.ReportsFindings (p := p) (Task.outcome limit) := by
  intro t _ violations hfound
  unfold Task.outcome at hfound
  split at hfound
  · cases hfound
  · split at hfound <;> cases hfound
    exact ⟨_, rfl⟩

theorem Registry.ReportsFindings.origin_cases {outcome : Task p → Outcome}
    (h : r.ReportsFindings outcome) {t : Task p} (ht : t ∈ r.tasks p) {v : Violation}
    (hv : v ∈ t.violations (outcome t)) :
    (v.origin = .lint ∧ v.rule = t.rule.id ∧ v.severity = t.rule.severity) ∨
      (v.origin = .ruleFault ∧ v.severity = .error) := by
  cases hout : outcome t with
  | found violations =>
    obtain ⟨findings, rfl⟩ := h t ht violations hout
    rw [hout] at hv
    obtain ⟨f, _, rfl⟩ := List.mem_map.1 hv
    exact .inl ⟨rfl, rfl, rfl⟩
  | fault cause =>
    rw [hout] at hv
    obtain rfl := List.mem_singleton.1 hv
    exact .inr ⟨rfl, rfl⟩

theorem Registry.rule_mem_of_mem_tasks {t : Task p} (ht : t ∈ r.tasks p) : t.rule ∈ r.rules := by
  obtain ⟨rule, hrule, ht⟩ := List.mem_flatMap.1 ht
  exact (Rule.rule_of_mem_tasks ht).symm ▸ hrule

theorem Registry.eq_of_id {rule rule' : Rule} (h : rule ∈ r.rules) (h' : rule' ∈ r.rules)
    (hid : rule.id = rule'.id) : rule = rule' :=
  List.inj_on_of_nodup_map r.nodup h h' hid

theorem Registry.ReportsFindings.graded {outcome : Task p → Outcome}
    (h : r.ReportsFindings outcome) {problems : List Violation}
    (hproblems : ∀ v ∈ problems, v.origin ≠ .lint ∧ v.severity = .error) :
    Graded (problems ++ (r.tasks p).flatMap fun t => t.violations (outcome t)) := by
  have htask : ∀ v ∈ problems ++ (r.tasks p).flatMap fun t => t.violations (outcome t),
      v.origin = .lint → ∃ rule ∈ r.rules, v.rule = rule.id ∧ v.severity = rule.severity := by
    intro v hv hlint
    rcases List.mem_append.1 hv with hv | hv
    · exact absurd hlint (hproblems v hv).1
    · obtain ⟨t, ht, hv⟩ := List.mem_flatMap.1 hv
      rcases h.origin_cases ht hv with ⟨_, hrule, hseverity⟩ | ⟨hfault, _⟩
      · exact ⟨t.rule, Registry.rule_mem_of_mem_tasks ht, hrule, hseverity⟩
      · cases hlint.symm.trans hfault
  constructor
  · intro v hv hlint
    rcases List.mem_append.1 hv with hv | hv
    · exact (hproblems v hv).2
    · obtain ⟨t, ht, hv⟩ := List.mem_flatMap.1 hv
      rcases h.origin_cases ht hv with ⟨hfinding, _⟩ | ⟨_, hseverity⟩
      · exact absurd hfinding hlint
      · exact hseverity
  · intro v hv w hw hlint hlint' hsame
    obtain ⟨rule, hrule, hid, hseverity⟩ := htask v hv hlint
    obtain ⟨rule', hrule', hid', hseverity'⟩ := htask w hw hlint'
    obtain rfl := Registry.eq_of_id hrule hrule' (hid.symm.trans (hsame.trans hid'))
    exact hseverity.trans hseverity'.symm

def inputErrors [Extends.ComponentFinder] (sources : List Source) : List Violation :=
  (Source.errors sources).map SyntaxError.toViolation ++
    (Project.build (Source.documents sources)).2.map ResolutionError.toViolation

theorem ne_lint_of_mem_inputErrors [Extends.ComponentFinder] {sources : List Source} {v : Violation}
    (hv : v ∈ inputErrors sources) : v.origin ≠ .lint ∧ v.severity = .error := by
  rcases List.mem_append.1 hv with hv | hv <;> obtain ⟨e, _, rfl⟩ := List.mem_map.1 hv
  · exact ⟨nofun, rfl⟩
  · exact ⟨nofun, rfl⟩

variable {sources : List Source} {levels levels' : Levels}
  {outcome : {p : Project} → Task p → Outcome}

/-- A run at levels that silence nothing sorts what it finds before any level is set, and then sets
the levels. -/
theorem violations_lint_eq_map [Extends.ComponentFinder] (hlevels : levels.SilencesNone)
    (h : r.ReportsFindings (p := (Project.build (Source.documents sources)).1) outcome) :
    (lint sources r levels outcome).violations =
      (sort (sources.map Source.path) (inputErrors sources ++
        (r.tasks (Project.build (Source.documents sources)).1).flatMap fun t =>
          t.violations (outcome t))).map levels.relabel := by
  have hinput : (inputErrors sources).map levels.relabel = inputErrors sources := by
    rw [List.map_congr_left fun v hv => Levels.relabel_of_ne_lint (ne_lint_of_mem_inputErrors hv).1,
      List.map_id']
  have hgraded := h.graded fun v (hv : v ∈ inputErrors sources) => ne_lint_of_mem_inputErrors hv
  rw [← sort_map_relabel hgraded, List.map_append, hinput, ← Levels.apply_eq_map hlevels]
  apply sort_eq_of_perm
  rw [Project.evaluate_eq]
  exact (sort_perm _ _).append_left (inputErrors sources)

/-! ## Main statement -/

/-- Two runs whose levels silence nothing, and in which the checks come to the same, report the same
violations in the same order, but for the severities of findings of the rules whose levels
differ. -/
theorem lint_relabeled [Extends.ComponentFinder] (hlevels : levels.SilencesNone)
    (hlevels' : levels'.SilencesNone)
    (h : r.ReportsFindings (p := (Project.build (Source.documents sources)).1) outcome) :
    List.Forall₂ (DiffersInLevel levels levels') (lint sources r levels outcome).violations
      (lint sources r levels' outcome).violations := by
  rw [violations_lint_eq_map hlevels h, violations_lint_eq_map hlevels' h,
    List.forall₂_map_left_iff, List.forall₂_map_right_iff, List.forall₂_same]
  exact fun v _ => differsInLevel_relabel levels levels' v

theorem Levels.silencesNone_singleton (rule : String) (severity : Severity) :
    SilencesNone [(rule, .report severity)] := by
  intro id
  by_cases h : id = rule
  · simp [allows, level?, h]
  · have hnone : level? [(rule, .report severity)] id = none :=
      List.lookup_eq_none_iff.2 (by simpa using beq_false_of_ne h)
    simp [allows, hnone]

/-- What comes of the tasks if the rule about primary keys does not come to an end. -/
def primaryKeyTimesOut (t : Task p) : Outcome :=
  if t.rule.id.text = "primary_key" then .fault (.timedOut 30) else t.outcome 30

/-- A view that no explore uses and that has no table, and a file that does not parse: one run
reports orphans as errors, the other one makes little of views without a table. -/
theorem lint_relabeled_orphans :
    Levels.SilencesNone [("no_orphans", .report .error)] ∧
    Levels.SilencesNone [("data_source", .report .info)] ∧
    List.Forall₂
      (DiffersInLevel [("no_orphans", .report .error)] [("data_source", .report .info)])
      (lint [postsFile, brokenFile] .standard [("no_orphans", .report .error)]
        primaryKeyTimesOut).violations
      (lint [postsFile, brokenFile] .standard [("data_source", .report .info)]
        primaryKeyTimesOut).violations := by
  have hsilences := Levels.silencesNone_singleton
  refine ⟨hsilences _ _, hsilences _ _, lint_relabeled (hsilences _ _) (hsilences _ _) ?_⟩
  intro t ht violations hfound
  unfold primaryKeyTimesOut at hfound
  split at hfound
  · cases hfound
  · exact Registry.standard.reportsFindings_outcome 30 t ht violations hfound

end Report

end LookML
