import LookML.Proofs.Evaluation.Completeness
import LookML.Proofs.Project.Separation
/-!
# Rules and projects that have nothing to do with one another

The built-in rules report at once and never break off. Those about fields and files look at nothing
else; those about the project ask which views are used, and by name. So what they find in a project
that is split in two is what they find in its parts.
-/

namespace LookML

/-! ## What a rule finds -/

/-- The findings that the check ends with. -/
def Run.findings (run : Run) : List Finding :=
  match run.ending with
  | .found findings => findings
  | .panicked _ => []

namespace Rule

variable {rule : Rule} {p : Project}

def findings (rule : Rule) (p : Project) : List Finding :=
  (rule.scope.subjects p).flatMap fun subject => (rule.check subject).findings

def ReportsAtOnce (rule : Rule) : Prop :=
  ∀ subject : rule.scope.Subject, ∃ findings, rule.check subject = .found findings

theorem ReportsAtOnce.violations_outcome (h : rule.ReportsAtOnce) (limit : Nat)
    (target : Instance p) :
    Task.violations ⟨rule, target⟩ (Task.outcome limit ⟨rule, target⟩) =
      ((target.subject? rule.scope).elim [] fun subject => (rule.check subject).findings).map
        fun f => f.toViolation rule.id rule.severity := by
  have hrun : Task.run ⟨rule, target⟩ =
      .found ((target.subject? rule.scope).elim [] fun subject =>
        (rule.check subject).findings) := by
    unfold Task.run
    cases target.subject? rule.scope with
    | none => rfl
    | some subject =>
      obtain ⟨findings, hcheck⟩ := h subject
      simp only [Option.elim_some, hcheck]
      rfl
  unfold Task.outcome
  rw [hrun, Run.found, if_neg (Nat.not_lt_zero limit)]
  rfl

theorem ReportsAtOnce.flatMap_tasks (h : rule.ReportsAtOnce) (limit : Nat) (p : Project) :
    ((rule.tasks p).flatMap fun t => t.violations (t.outcome limit)) =
      (rule.findings p).map fun f => f.toViolation rule.id rule.severity := by
  have htargets : ((Instance.ofScope p rule.scope).flatMap fun target =>
      (target.subject? rule.scope).elim [] fun subject => (rule.check subject).findings) =
        rule.findings p :=
    calc _ = ((Instance.ofScope p rule.scope).map (Instance.subject? rule.scope)).flatMap
          fun subject? => subject?.elim [] fun subject => (rule.check subject).findings := by
          rw [List.flatMap_map]
      _ = rule.findings p := by
          rw [Instance.map_subject?_ofScope, List.flatMap_map]
          rfl
  rw [Rule.tasks, List.flatMap_map, ← htargets, List.map_flatMap]
  apply List.flatMap_congr
  exact fun target _ => h.violations_outcome limit target

/-! ## Rules by scope -/

/-- What the rule finds in a project that is split in two is what it finds in the parts. -/
def Separates (rule : Rule) : Prop :=
  ∀ {mine : String → Prop} {p first second : Project}, p.Splits mine first second →
    (rule.findings p).Perm (rule.findings first ++ rule.findings second)

theorem separates_of_scope_ne (h : rule.scope ≠ .project) : rule.Separates := by
  intro mine p first second hsplits
  obtain ⟨id, severity, description, scope, check⟩ := rule
  cases scope with
  | field => exact (hsplits.viewFields.flatMap _).perm
  | file => exact (hsplits.documents.flatMap _).perm
  | project => exact absurd rfl h

theorem findings_ofFile (id : RuleId) (severity : Severity) (description : String)
    (findings : Document → List Finding) (p : Project) :
    (ofFile id severity description findings).findings p = p.documents.flatMap findings :=
  rfl

theorem findings_ofProject (id : RuleId) (severity : Severity) (description : String)
    (findings : Project → List Finding) (p : Project) :
    (ofProject id severity description findings).findings p = findings p :=
  List.append_nil _

end Rule

/-! ## Built-in rules -/

namespace Rules

open Project

variable {mine : String → Prop} {p first second : Project}

theorem separates_primaryKey : primaryKey.Separates := by
  intro mine p first second h
  simp only [primaryKey, Rule.findings_ofProject]
  exact (h.views.filterMap _).perm

theorem mem_viewsOf {explore : Entity} (h : explore.Within mine) {name : String}
    (hname : name ∈ viewsOf explore) : mine name := by
  rcases List.mem_cons.1 hname with rfl | hjoin
  · exact h.baseView
  · obtain ⟨j, hj, rfl⟩ := List.mem_map.1 hjoin
    exact h.targetView hj

theorem isUsed_iff (p : Project) (name : String) :
    isUsed p name = true ↔ (∃ explore ∈ p.explores, name ∈ viewsOf explore) ∨
      ∃ e ∈ p.entities, ∃ base ∈ e.bases, base.text = name := by
  simp [isUsed]

theorem isUsed_eq (h : p.Splits mine first second) {name : String} (hname : mine name) :
    isUsed p name = isUsed first name := by
  rw [Bool.eq_iff_iff, isUsed_iff, isUsed_iff]
  apply or_congr
  · apply h.explores.exists_mem_iff
    intro explore hexplore hviews
    exact mem_viewsOf (h.within_second explore (mem_entities_of_explore hexplore)) hviews hname
  · apply h.entities.exists_mem_iff
    rintro e he ⟨base, hbase, rfl⟩
    exact (h.within_second e he).bases base hbase hname

theorem separates_noOrphans : noOrphans.Separates := by
  intro mine p first second h
  have horphans : ∀ {mine : String → Prop} {first second : Project}, p.Splits mine first second →
      ∀ v ∈ first.views, (!isUsed p v.name) = !isUsed first v.name := by
    intro mine first second h v hv
    rw [isUsed_eq h (h.within_first v (List.mem_filter.1 hv).1).name]
  simp only [noOrphans, Rule.findings_ofProject, noOrphansFindings]
  rw [← List.filter_congr (horphans h), ← List.filter_congr (horphans h.swap), ← List.map_append]
  exact (h.views.filter _).perm.map _

variable [SqlParser] {options : RuleOptions} {pattern : String → Bool} {rule : Rule}

theorem reportsAtOnce_builtIn (h : rule ∈ builtIn options pattern) : rule.ReportsAtOnce := by
  simp only [builtIn, List.mem_cons, List.not_mem_nil, or_false] at h
  rcases h with rfl | rfl | rfl | rfl | rfl | rfl | rfl | rfl | rfl | rfl | rfl | rfl | rfl | rfl |
    rfl | rfl <;> exact fun _ => ⟨_, rfl⟩

theorem flatMap_tasks {r : Registry} (hr : ∀ rule ∈ r.rules, rule ∈ builtIn options pattern)
    (limit : Nat) (p : Project) :
    (r.tasks p).flatMap (fun t => t.violations (t.outcome limit)) =
      r.rules.flatMap fun rule =>
        (rule.findings p).map fun f => f.toViolation rule.id rule.severity := by
  rw [Registry.tasks, List.flatMap_assoc]
  apply List.flatMap_congr
  exact fun rule hrule => (reportsAtOnce_builtIn (hr rule hrule)).flatMap_tasks limit p

theorem eq_of_scope_project (h : rule ∈ builtIn options pattern) (hscope : rule.scope = .project) :
    rule = primaryKey ∨ rule = noOrphans := by
  have hfiltered : rule ∈ (builtIn options pattern).filter (·.scope = .project) :=
    List.mem_filter.2 ⟨h, decide_eq_true hscope⟩
  have heq : (builtIn options pattern).filter (·.scope = .project) = [primaryKey, noOrphans] := rfl
  simpa [heq] using hfiltered

theorem separates_builtIn (h : rule ∈ builtIn options pattern) : rule.Separates := by
  by_cases hscope : rule.scope = .project
  · rcases eq_of_scope_project h hscope with rfl | rfl
    · exact separates_primaryKey
    · exact separates_noOrphans
  · exact Rule.separates_of_scope_ne hscope

end Rules

/-! ## Main statement -/

theorem Project.evaluate_perm_append [SqlParser] {mine : String → Prop} {p first second : Project}
    (h : p.Splits mine first second) {options : RuleOptions} {pattern : String → Bool}
    {r : Registry} (hr : ∀ rule ∈ r.rules, rule ∈ Rules.builtIn options pattern) (levels : Levels)
    (limit : Nat) :
    (p.evaluate r levels (Task.outcome limit)).Perm
      (first.evaluate r levels (Task.outcome limit) ++
        second.evaluate r levels (Task.outcome limit)) := by
  have hrules : (r.rules.flatMap fun rule =>
        (rule.findings p).map fun f => f.toViolation rule.id rule.severity).Perm
      ((r.rules.flatMap fun rule =>
          (rule.findings first).map fun f => f.toViolation rule.id rule.severity) ++
        r.rules.flatMap fun rule =>
          (rule.findings second).map fun f => f.toViolation rule.id rule.severity) := by
    refine List.Perm.trans ?_ (List.flatMap_append_perm _ _ _).symm
    apply List.Perm.flatMap_left
    intro rule hrule
    rw [← List.map_append]
    exact (Rules.separates_builtIn (hr rule hrule) h).map _
  rw [evaluate_eq, evaluate_eq, evaluate_eq, Rules.flatMap_tasks hr, Rules.flatMap_tasks hr,
    Rules.flatMap_tasks hr]
  apply (Violation.sort_perm _ _).trans
  apply (levels.apply_perm hrules).trans
  rw [levels.apply_append]
  exact (Violation.sort_perm _ _).symm.append (Violation.sort_perm _ _).symm

end LookML
