import LookML.Config
import LookML.Proofs.Evaluation.Selection
import LookML.Proofs.Lint
/-!
# Linting with fewer rules

Rules are left out of a run in two ways: a configuration turns them off, or a selection does not
list them. Either way the report is that of a run with all rules, less what is reported under the
ids of those left out.
-/

namespace LookML

namespace Registry

variable {r : Registry} {ids : List String}

theorem checkKnown_eq_ok_iff : r.checkKnown ids = .ok () ↔ ∀ id ∈ ids, id ∈ r.ids := by
  have hrule : ∀ id, (r.rule? id).isNone = false ↔ id ∈ r.ids := by
    simp [rule?, Registry.ids]
  unfold checkKnown
  split
  · rename_i id hid
    have hunknown : (r.rule? id).isNone = true := by simpa using List.find?_some hid
    simp only [reduceCtorEq, false_iff]
    intro h
    rw [(hrule id).2 (h id (List.mem_of_find?_eq_some hid))] at hunknown
    cases hunknown
  · rename_i hnone
    simp only [true_iff]
    intro id hid
    exact (hrule id).1 (Bool.eq_false_iff.2 (List.find?_eq_none.1 hnone id hid))

theorem select_eq_ok (h : ∀ id ∈ ids, id ∈ r.ids) :
    r.select ids = .ok (r.filter fun rule => ids.contains rule.id.text) := by
  rw [select, checkKnown_eq_ok_iff.2 h]
  rfl

theorem exists_of_configured [SqlParser] [PatternCompiler] {options : RuleOptions} {levels : Levels}
    (h : configured options levels = .ok r) :
    ∃ all, withOptions options = .ok all ∧
      r = all.filter fun rule => levels.allows rule.id.text := by
  unfold configured at h
  cases hall : withOptions options with
  | error e =>
    rw [hall] at h
    cases h
  | ok all =>
    rw [hall] at h
    cases hknown : all.checkKnown levels.ids with
    | error e =>
      simp only [Except.bind, bind, hknown] at h
      cases h
    | ok _ =>
      simp only [Except.bind, bind, hknown] at h
      cases h
      exact ⟨all, rfl, rfl⟩

end Registry

theorem SyntaxError.isAboutInput_toViolation (e : SyntaxError) :
    e.toViolation.isAboutInput = true := rfl

theorem ResolutionError.isAboutInput_toViolation (e : ResolutionError) :
    e.toViolation.isAboutInput = true := rfl

section Report

variable {sources : List Source} {r : Registry} {outcome : {p : Project} → Task p → Outcome}

theorem violations_lint_filter [Extends.ComponentFinder]
    (h : r.ReportsOwn (p := (Project.build (Source.documents sources)).1) outcome) (levels : Levels)
    (chosen : String → Bool) :
    (lint sources (r.filter fun rule => chosen rule.id.text) levels outcome).violations =
      (lint sources r levels outcome).violations.filter fun v =>
        v.isAboutInput || chosen v.rule.text := by
  have hsyntax : ((Source.errors sources).map SyntaxError.toViolation).filter
      (fun v => v.isAboutInput || chosen v.rule.text) =
        (Source.errors sources).map SyntaxError.toViolation := by
    apply List.filter_eq_self.2
    simp [SyntaxError.isAboutInput_toViolation]
  have hproblems : ((Project.build (Source.documents sources)).2.map
      ResolutionError.toViolation).filter (fun v => v.isAboutInput || chosen v.rule.text) =
        (Project.build (Source.documents sources)).2.map ResolutionError.toViolation := by
    apply List.filter_eq_self.2
    simp [ResolutionError.isAboutInput_toViolation]
  simp only [lint, Violation.filter_sort, List.filter_append, hsyntax, hproblems,
    Project.evaluate_filter h]

end Report

/-! ## Main statement -/

/-- A run with the rules that a configuration leaves on, or that a selection lists, reports what a
run with all rules reports, less what bears the id of a rule left out. -/
theorem lint_selected [SqlParser] [PatternCompiler] [Extends.ComponentFinder]
    (sources : List Source) (levels : Levels) (outcome : {p : Project} → Task p → Outcome) :
    (∀ (c : Config) (r : Registry), Registry.configured c.options c.levels = .ok r →
      ∃ all, Registry.withOptions c.options = .ok all ∧
        (all.ReportsOwn (p := (Project.build (Source.documents sources)).1) outcome →
          (lint sources r levels outcome).violations =
            (lint sources all levels outcome).violations.filter fun v =>
              !((v.origin = .lint || v.origin = .ruleFault) &&
                c.levels.level? v.rule.text = some .off))) ∧
    ∀ (r : Registry) (ids : List String), (∀ id ∈ ids, id ∈ r.ids) →
      r.ReportsOwn (p := (Project.build (Source.documents sources)).1) outcome →
      ∃ selected, r.select ids = .ok selected ∧
        (lint sources selected levels outcome).violations =
          (lint sources r levels outcome).violations.filter fun v =>
            v.origin = .parse || v.origin = .resolution || ids.contains v.rule.text := by
  constructor
  · intro c r hr
    obtain ⟨all, hall, rfl⟩ := Registry.exists_of_configured hr
    refine ⟨all, hall, fun hown => ?_⟩
    rw [violations_lint_filter hown]
    apply List.filter_congr
    intro v _
    rw [Violation.isAboutInput, Levels.allows]
    cases v.origin <;> simp
  · intro r ids hids hown
    exact ⟨_, Registry.select_eq_ok hids, violations_lint_filter hown levels ids.contains⟩

/-! ## The standard rules without one of them -/

def Config.withoutOrphans : Config :=
  { Config.standard with levels := [("no_orphans", .off)] }

namespace Registry

variable [SqlParser] [PatternCompiler]

theorem withOptions_standard : withOptions .standard = .ok standard := by
  obtain ⟨pattern, hpattern⟩ := PatternCompiler.exists_standard
  unfold standard withOptions
  rw [hpattern]
  rfl

theorem ids_standard : standard.ids = Rules.builtInIds := by
  obtain ⟨pattern, hpattern⟩ := PatternCompiler.exists_standard
  unfold standard withOptions
  rw [hpattern]
  exact Rules.map_id_builtIn _ _

theorem configured_withoutOrphans :
    configured Config.withoutOrphans.options Config.withoutOrphans.levels =
      .ok (standard.filter fun rule => Config.withoutOrphans.levels.allows rule.id.text) := by
  have hknown : standard.checkKnown Config.withoutOrphans.levels.ids = .ok () := by
    rw [checkKnown_eq_ok_iff, ids_standard]
    decide +kernel
  have hall : withOptions Config.withoutOrphans.options = .ok standard := withOptions_standard
  simp only [configured, hall, bind, Except.bind, hknown]
  rfl

end Registry

/-- The files are a view that no explore uses and one that does not parse. -/
theorem lint_selected_withoutOrphans :
    (lint [postsFile, brokenFile]
        (Registry.standard.filter fun rule => Config.withoutOrphans.levels.allows rule.id.text)
        Config.withoutOrphans.levels (Task.outcome 1000)).violations =
      (lint [postsFile, brokenFile] .standard Config.withoutOrphans.levels
        (Task.outcome 1000)).violations.filter (fun v =>
          !((v.origin = .lint || v.origin = .ruleFault) &&
            Config.withoutOrphans.levels.level? v.rule.text = some .off)) ∧
    ∃ selected, Registry.standard.select ["primary_key", "description"] = .ok selected ∧
      (lint [postsFile, brokenFile] selected [] (Task.outcome 1000)).violations =
        (lint [postsFile, brokenFile] .standard [] (Task.outcome 1000)).violations.filter fun v =>
          v.origin = .parse || v.origin = .resolution ||
            ["primary_key", "description"].contains v.rule.text := by
  have hids : ∀ id ∈ ["primary_key", "description"], id ∈ Registry.standard.ids := by
    rw [Registry.ids_standard]
    decide
  constructor
  · obtain ⟨all, hall, hconfigured⟩ := (lint_selected [postsFile, brokenFile]
      Config.withoutOrphans.levels (Task.outcome 1000)).1 _ _ Registry.configured_withoutOrphans
    cases hall.symm.trans Registry.withOptions_standard
    exact hconfigured (Registry.reportsOwn_outcome .standard 1000)
  · exact (lint_selected [postsFile, brokenFile] [] (Task.outcome 1000)).2 .standard _ hids
      (Registry.reportsOwn_outcome .standard 1000)

end LookML
