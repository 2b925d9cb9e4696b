import LookML.Library
import LookML.Project.Build
import LookML.Proofs.Evaluation.Instances
import LookML.Proofs.Violation.Order
import Mathlib.Data.List.Perm.Basic
/-!
# Every task counts once

In whatever order the tasks end, each adds what came of it to the report once: its violations, or
one diagnostic if it did not finish. Nothing that comes of one task changes what comes of another.
-/

namespace LookML

variable {p : Project}

/-! ## Levels -/

namespace Levels

theorem apply_append (levels : Levels) (violations more : List Violation) :
    levels.apply (violations ++ more) = levels.apply violations ++ levels.apply more :=
  List.filterMap_append

theorem apply_perm (levels : Levels) {violations violations' : List Violation}
    (h : violations.Perm violations') : (levels.apply violations).Perm (levels.apply violations') :=
  h.filterMap _

/-- What levels make of violations, one by one: a rule's finding is left out or graded anew if the
rule has a level, and nothing else is touched. -/
structure Overrides (levels : Levels) : Prop where
  append : ∀ violations more : List Violation,
    levels.apply (violations ++ more) = levels.apply violations ++ levels.apply more
  diagnostic : ∀ v : Violation, v.origin ≠ .lint → levels.apply [v] = [v]
  unset : ∀ v : Violation, levels.level? v.rule.text = none → levels.apply [v] = [v]
  off : ∀ v : Violation, v.origin = .lint → levels.level? v.rule.text = some .off →
    levels.apply [v] = []
  graded : ∀ (v : Violation) (severity : Severity), v.origin = .lint →
    levels.level? v.rule.text = some (.report severity) →
      levels.apply [v] = [{ v with severity := severity }]

theorem overrides (levels : Levels) : levels.Overrides where
  append := levels.apply_append
  diagnostic v h := by simp [apply, relabel?, Origin.isDiagnostic, h]
  unset v h := by simp [apply, relabel?, h]
  off v h hoff := by simp [apply, relabel?, Origin.isDiagnostic, h, hoff]
  graded v severity h hlevel := by simp [apply, relabel?, Origin.isDiagnostic, h, hlevel]

end Levels

theorem Task.apply_faultViolation (levels : Levels) (t : Task p) (cause : FaultCause) :
    levels.apply [t.faultViolation cause] = [t.faultViolation cause] :=
  levels.overrides.diagnostic _ nofun

/-! ## Tasks end in any order -/

namespace Progress

variable (outcome : Task p → Outcome)

theorem getElem?_complete (progress : Progress p) (place i : Nat) :
    (progress.complete outcome place)[i]? =
      progress[i]?.map fun (t, ended) => (t, if i = place then some (outcome t) else ended) := by
  rw [complete, Array.getElem?_modify]
  by_cases h : place = i
  · subst h
    simp
  · have hne : i ≠ place := fun heq => h heq.symm
    simp [h, hne]

theorem getElem?_completeAll (progress : Progress p) (places : List Nat) (i : Nat) :
    (progress.completeAll outcome places)[i]? =
      progress[i]?.map fun (t, ended) => (t, if i ∈ places then some (outcome t) else ended) := by
  induction places generalizing progress with
  | nil => simp [completeAll]
  | cons place places ih =>
    have hstep : progress.completeAll outcome (place :: places) =
        (progress.complete outcome place).completeAll outcome places := rfl
    rw [hstep, ih, getElem?_complete, Option.map_map]
    congr 1
    funext ⟨t, ended⟩
    by_cases hrest : i ∈ places
    · simp [hrest]
    · by_cases hfirst : i = place <;> simp [hrest, hfirst]

theorem completeAll_start {tasks : List (Task p)} {places : List Nat}
    (h : places.Perm (List.range tasks.length)) :
    (start tasks).completeAll outcome places =
      (tasks.map fun t => (t, some (outcome t))).toArray := by
  apply Array.ext_getElem?
  intro i
  rw [getElem?_completeAll, start, List.getElem?_toArray, List.getElem?_toArray,
    List.getElem?_map, List.getElem?_map, Option.map_map]
  rcases Nat.lt_or_ge i tasks.length with hi | hi
  · have hended : i ∈ places := h.mem_iff.2 (List.mem_range.2 hi)
    simp [hended, Function.comp_def]
  · simp [List.getElem?_eq_none hi]

theorem collected_completeAll {tasks : List (Task p)} {places : List Nat}
    (h : places.Perm (List.range tasks.length)) :
    ((start tasks).completeAll outcome places).collected =
      tasks.flatMap fun t => t.violations (outcome t) := by
  rw [completeAll_start outcome h, collected, List.flatMap_map]
  rfl

end Progress

theorem Project.evaluateAs_eq {r : Registry} (levels : Levels) (outcome : Task p → Outcome)
    {places : List Nat} (h : places.Perm (List.range (r.tasks p).length)) :
    p.evaluateAs r levels outcome places = Violation.sort p.documentPaths
      (levels.apply ((r.tasks p).flatMap fun t => t.violations (outcome t))) := by
  rw [evaluateAs, Progress.collected_completeAll outcome h]

theorem Project.evaluate_eq (r : Registry) (levels : Levels) (outcome : Task p → Outcome) :
    p.evaluate r levels outcome = Violation.sort p.documentPaths
      (levels.apply ((r.tasks p).flatMap fun t => t.violations (outcome t))) :=
  evaluateAs_eq levels outcome (.refl _)

/-! ## One task, one rule -/

theorem Registry.tasks_perm_cons {r r' : Registry} {rule : Rule}
    (h : r'.rules.Perm (rule :: r.rules)) :
    (r'.tasks p).Perm (rule.tasks p ++ r.tasks p) :=
  h.flatMap_right (fun rule : Rule => rule.tasks p)

theorem Task.exists_others {tasks : List (Task p)} (hnodup : tasks.Nodup) {t : Task p}
    (ht : t ∈ tasks) {outcome outcome' : Task p → Outcome}
    (h : ∀ t' ∈ tasks, t' ≠ t → outcome' t' = outcome t') :
    ∃ others : List Violation,
      (tasks.flatMap fun t => t.violations (outcome t)).Perm
        (others ++ t.violations (outcome t)) ∧
      (tasks.flatMap fun t => t.violations (outcome' t)).Perm
        (others ++ t.violations (outcome' t)) := by
  obtain ⟨before, after, rfl⟩ := List.append_of_mem ht
  have hperm : (before ++ t :: after).Perm (t :: (before ++ after)) := List.perm_middle
  have hfresh : t ∉ before ++ after := (List.nodup_cons.1 (hperm.nodup_iff.1 hnodup)).1
  have hothers : (before ++ after).flatMap (fun t => t.violations (outcome' t)) =
      (before ++ after).flatMap fun t => t.violations (outcome t) := by
    apply List.flatMap_congr
    intro t' ht'
    have hne : t' ≠ t := fun heq => hfresh (heq ▸ ht')
    rw [h t' (hperm.mem_iff.2 (List.mem_cons_of_mem t ht')) hne]
  refine ⟨(before ++ after).flatMap fun t => t.violations (outcome t), ?_, ?_⟩
  · exact (hperm.flatMap_right _).trans List.perm_append_comm
  · rw [← hothers]
    exact (hperm.flatMap_right _).trans List.perm_append_comm

theorem Project.exists_evaluateAs_of_fault {r : Registry} (levels : Levels)
    {outcome outcome' : Task p → Outcome} {places places' : List Nat}
    (h : places.Perm (List.range (r.tasks p).length)) {t : Task p} (ht : t ∈ r.tasks p)
    {cause : FaultCause} (hfault : outcome' t = .fault cause)
    (hsame : ∀ t' ∈ r.tasks p, t' ≠ t → outcome' t' = outcome t')
    (h' : places'.Perm (List.range (r.tasks p).length)) :
    ∃ others : List Violation,
      p.evaluateAs r levels outcome places = Violation.sort p.documentPaths
        (others ++ levels.apply (t.violations (outcome t))) ∧
      p.evaluateAs r levels outcome' places' = Violation.sort p.documentPaths
        (others ++ [t.faultViolation cause]) := by
  obtain ⟨others, hbefore, hafter⟩ := Task.exists_others (r.nodup_tasks p) ht hsame
  rw [hfault] at hafter
  refine ⟨levels.apply others, ?_, ?_⟩
  · rw [evaluateAs_eq levels outcome h, ← levels.apply_append]
    exact Violation.sort_eq_of_perm _ (levels.apply_perm hbefore)
  · rw [evaluateAs_eq levels outcome' h', ← t.apply_faultViolation levels cause,
      ← levels.apply_append]
    exact Violation.sort_eq_of_perm _ (levels.apply_perm hafter)

theorem Project.evaluateAs_of_perm_cons {r r' : Registry} (levels : Levels)
    (outcome : Task p → Outcome) {places places' : List Nat}
    (h : places.Perm (List.range (r.tasks p).length)) {rule : Rule}
    (hrules : r'.rules.Perm (rule :: r.rules))
    (h' : places'.Perm (List.range (r'.tasks p).length)) :
    p.evaluateAs r' levels outcome places' = Violation.sort p.documentPaths
      (p.evaluateAs r levels outcome places ++
        levels.apply ((rule.tasks p).flatMap fun t => t.violations (outcome t))) := by
  have htasks := (Registry.tasks_perm_cons (p := p) hrules).trans List.perm_append_comm
  have hviolations := levels.apply_perm (htasks.flatMap_right fun t => t.violations (outcome t))
  rw [evaluateAs_eq levels outcome h', evaluateAs_eq levels outcome h,
    Violation.sort_sort_append, ← levels.apply_append, ← List.flatMap_append]
  exact Violation.sort_eq_of_perm _ hviolations

/-! ## What comes of a task -/

/-- What comes of a check by the rule if no more than so many milliseconds are waited for it. -/
inductive Rule.ComesTo (rule : Rule) (limit : Nat) (run : Run) : Outcome → Prop where
  | found {findings : List Finding} (inTime : run.milliseconds ≤ limit)
      (h : run.ending = .found findings) :
      ComesTo rule limit run (.found (findings.map fun f => f.toViolation rule.id rule.severity))
  | panicked {message : Option String} (inTime : run.milliseconds ≤ limit)
      (h : run.ending = .panicked message) :
      ComesTo rule limit run (.fault (.panicked (message.getD "unknown panic payload")))
  | timedOut (h : limit < run.milliseconds) :
      ComesTo rule limit run (.fault (.timedOut limit))

theorem Task.exists_subject {r : Registry} {t : Task p} (ht : t ∈ r.tasks p) :
    ∃ subject ∈ t.rule.scope.subjects p, t.target.subject? t.rule.scope = some subject := by
  obtain ⟨rule, -, ht⟩ := List.mem_flatMap.1 ht
  obtain ⟨target, htarget, rfl⟩ := List.mem_map.1 ht
  have hmem := List.mem_map_of_mem (f := Instance.subject? rule.scope) htarget
  rw [Instance.map_subject?_ofScope] at hmem
  obtain ⟨subject, hsubject, heq⟩ := List.mem_map.1 hmem
  exact ⟨subject, hsubject, heq.symm⟩

theorem Task.comesTo_outcome (limit : Nat) {t : Task p} {subject : t.rule.scope.Subject}
    (h : t.target.subject? t.rule.scope = some subject) :
    t.rule.ComesTo limit (t.rule.check subject) (t.outcome limit) := by
  have hrun : t.run = t.rule.check subject := by
    rw [run, h]
  unfold outcome
  rw [hrun]
  split
  · rename_i hlate
    exact .timedOut hlate
  · rename_i hinTime
    split
    · rename_i findings hending
      exact .found (Nat.le_of_not_lt hinTime) hending
    · rename_i message hending
      exact .panicked (Nat.le_of_not_lt hinTime) hending

/-! ## Main statement -/

/-- Every rule is pointed once at each instance of its scope, and the report is what comes of that:
the canonical list of all that was found, at the levels that are set, and one diagnostic for each
task that did not finish, whatever the levels. -/
structure Project.AccountsFor (p : Project) (r : Registry) (levels : Levels)
    (outcome : Task p → Outcome) (report : List Violation) : Prop where
  /-- in whatever order it is listed what the tasks add -/
  union : ∀ union : List Violation,
    union.Perm (r.rules.flatMap fun rule =>
      (rule.tasks p).flatMap fun t => t.violations (outcome t)) →
    report = Violation.sort p.documentPaths (levels.apply union)
  shown : ∀ rule ∈ r.rules, (∀ t ∈ rule.tasks p, t.rule = rule) ∧
    (rule.tasks p).map (fun t => t.target.subject? rule.scope) = (rule.scope.subjects p).map some
  once : (r.tasks p).Nodup
  found : ∀ t ∈ r.tasks p, ∀ violations, outcome t = .found violations →
    t.violations (outcome t) = violations
  fault : ∀ t ∈ r.tasks p, ∀ cause, outcome t = .fault cause →
    ∃ v, t.violations (outcome t) = [v] ∧ v.rule = t.rule.id ∧ v.severity = .error ∧
      v.origin = .ruleFault ∧ levels.apply [v] = [v]
  overrides : levels.Overrides

theorem Project.accountsFor_evaluateAs {r : Registry} (levels : Levels)
    (outcome : Task p → Outcome) {places : List Nat}
    (h : places.Perm (List.range (r.tasks p).length)) :
    p.AccountsFor r levels outcome (p.evaluateAs r levels outcome places) where
  union := by
    intro union hunion
    rw [evaluateAs_eq levels outcome h, Registry.tasks, List.flatMap_assoc]
    exact (Violation.sort_eq_of_perm _ (levels.apply_perm hunion)).symm
  shown := by
    intro rule _
    refine ⟨fun t ht => Rule.rule_of_mem_tasks ht, ?_⟩
    rw [Rule.tasks, List.map_map]
    exact Instance.map_subject?_ofScope p rule.scope
  once := r.nodup_tasks p
  found := by
    intro t _ violations hfound
    rw [hfound]
    rfl
  fault := by
    intro t _ cause hcause
    rw [hcause]
    exact ⟨t.faultViolation cause, rfl, rfl, rfl, rfl, t.apply_faultViolation levels cause⟩
  overrides := levels.overrides

/-- Whatever the order in which the tasks end, the report accounts for all of them. If one of them
comes to a fault instead, the rest of the report stays; one more rule adds what comes of its own
tasks. A task comes to what the rule's check of its subject comes to. -/
theorem Project.evaluation_complete {r : Registry} (levels : Levels) (outcome : Task p → Outcome)
    {places : List Nat} (h : places.Perm (List.range (r.tasks p).length)) :
    p.AccountsFor r levels outcome (p.evaluateAs r levels outcome places) ∧
    (∀ t ∈ r.tasks p, ∀ (cause : FaultCause) (outcome' : Task p → Outcome),
      outcome' t = .fault cause → (∀ t' ∈ r.tasks p, t' ≠ t → outcome' t' = outcome t') →
      ∀ places' : List Nat, places'.Perm (List.range (r.tasks p).length) →
      ∃ others : List Violation,
        p.evaluateAs r levels outcome places = Violation.sort p.documentPaths
          (others ++ levels.apply (t.violations (outcome t))) ∧
        p.evaluateAs r levels outcome' places' = Violation.sort p.documentPaths
          (others ++ [t.faultViolation cause])) ∧
    (∀ (rule : Rule) (r' : Registry), r'.rules.Perm (rule :: r.rules) →
      ∀ places' : List Nat, places'.Perm (List.range (r'.tasks p).length) →
      p.evaluateAs r' levels outcome places' = Violation.sort p.documentPaths
        (p.evaluateAs r levels outcome places ++
          levels.apply ((rule.tasks p).flatMap fun t => t.violations (outcome t)))) ∧
    ∀ t ∈ r.tasks p, ∃ subject ∈ t.rule.scope.subjects p,
      t.target.subject? t.rule.scope = some subject ∧
        ∀ limit, t.rule.ComesTo limit (t.rule.check subject) (t.outcome limit) := by
  refine ⟨accountsFor_evaluateAs levels outcome h, ?_, ?_, ?_⟩
  · intro t ht cause outcome' hfault hsame places' h'
    exact exists_evaluateAs_of_fault levels h ht hfault hsame h'
  · intro rule r' hrules places' h'
    exact evaluateAs_of_perm_cons levels outcome h hrules h'
  · intro t ht
    obtain ⟨subject, hsubject, hshown⟩ := Task.exists_subject ht
    exact ⟨subject, hsubject, hshown, fun limit => Task.comesTo_outcome limit hshown⟩

/-! ## A view with two fields -/

def ordersFile : Document :=
  let at_ := fun line column endColumn => Location.mk "o.view.lkml" line column line endColumn
  ⟨"o.view.lkml", [], [.mk .view (some "orders") [] [.mk .dimension (some "id") [] [] (at_ 2 3 19),
    .mk .measure (some "TOTAL") [] [] (at_ 3 3 20)] ⟨"o.view.lkml", 1, 1, 4, 2⟩]⟩

def ordersProject : Project :=
  (Project.build [ordersFile]).1

def rulesByScope : Registry :=
  ⟨[Rules.allCaps, Rules.filenameViewnameMatch, Rules.primaryKey], by decide⟩

def levelsByScope : Levels :=
  [("all_caps", .report .error), ("filename_viewname_match", .off)]

def filesPanic (t : Task p) : Outcome :=
  match t.target with
  | .file _ => .fault (.panicked "out of memory")
  | _ => t.outcome 1000

/-- The field in upper case is graded anew, the file is about a fault whose rule is turned off, and
the missing key is found at the rule's own severity. -/
theorem Project.evaluation_complete_orders :
    [3, 1, 0, 2].Perm (List.range (rulesByScope.tasks ordersProject).length) ∧
      ordersProject.AccountsFor rulesByScope levelsByScope filesPanic
        (ordersProject.evaluateAs rulesByScope levelsByScope filesPanic [3, 1, 0, 2]) ∧
      ∃ union : List Violation,
        ordersProject.evaluateAs rulesByScope levelsByScope filesPanic [3, 1, 0, 2] =
          Violation.sort ordersProject.documentPaths union ∧
        union.map (fun v => (v.rule.text, v.severity, v.origin)) =
          [("all_caps", .error, .lint), ("filename_viewname_match", .error, .ruleFault),
            ("primary_key", .warning, .lint)] := by
  have hplaces : [3, 1, 0, 2].Perm (List.range (rulesByScope.tasks ordersProject).length) := by
    decide +kernel
  have haccounts := (evaluation_complete levelsByScope filesPanic hplaces).1
  have hunion := haccounts.union _ (.refl _)
  exact ⟨hplaces, haccounts, _, hunion, by decide +kernel⟩

end LookML
