import LookML.Proofs.Evaluation.Completeness
/-!
# Fewer rules

Whatever a rule adds to the report bears its id, be it a finding or the diagnostic of a fault. So
the report of some of the rules is what the report of all of them says under their ids, and in the
same order.
-/

namespace LookML

theorem flatMap_filter {α β : Type} (p : α → Bool) (f : α → List β) (l : List α) :
    (l.filter p).flatMap f = l.flatMap fun x => if p x then f x else [] := by
  induction l with
  | nil => rfl
  | cons x l ih => cases hx : p x <;> simp [hx, ih]

namespace Violation

/-- Whether the violation is about the files themselves, whatever rules there are. -/
def isAboutInput (v : Violation) : Bool :=
  v.origin = .parse || v.origin = .resolution

theorem filter_sort (paths : List String) (keep : Violation → Bool) (violations : List Violation) :
    (sort paths violations).filter keep = sort paths (violations.filter keep) := by
  have hsorted := (pairwise_sort paths violations).filter keep
  calc (sort paths violations).filter keep
      = sort paths ((sort paths violations).filter keep) :=
        (List.mergeSort_of_pairwise hsorted).symm
    _ = sort paths (violations.filter keep) :=
        sort_eq_of_perm paths ((sort_perm paths violations).filter keep)

end Violation

/-! ## Levels -/

namespace Levels

theorem eq_of_relabel? {levels : Levels} {v w : Violation} (h : levels.relabel? v = some w) :
    w = { v with severity := w.severity } := by
  unfold relabel? at h
  split at h
  · cases h
    rfl
  · split at h <;> cases h <;> rfl

theorem filter_apply (levels : Levels) {keep : Violation → Bool}
    (hkeep : ∀ v severity, keep { v with severity := severity } = keep v)
    (violations : List Violation) :
    (levels.apply violations).filter keep = levels.apply (violations.filter keep) := by
  unfold apply
  rw [List.filter_filterMap, List.filterMap_filter]
  apply List.filterMap_congr
  intro v _
  cases hv : levels.relabel? v with
  | none => simp
  | some w =>
    have hw : keep w = keep v := by
      rw [eq_of_relabel? hv]
      exact hkeep v w.severity
    simp [Option.filter, hw]

end Levels

/-! ## What rules report as their own -/

variable {p : Project}

/-- Wherever a rule of the registry is pointed in the project, it reports under its own id, and
only what concerns rules. -/
def Registry.ReportsOwn (r : Registry) (outcome : Task p → Outcome) : Prop :=
  ∀ t ∈ r.tasks p, ∀ found, outcome t = .found found →
    ∀ v ∈ found, v.rule = t.rule.id ∧ v.isAboutInput = false

/-- As a check reports findings, they become violations of its rule. -/
theorem Registry.reportsOwn_outcome (r : Registry) (limit : Nat) :
    r.ReportsOwn (p := p) (Task.outcome limit) := by
  intro t _ found hfound v hv
  unfold Task.outcome at hfound
  split at hfound
  · cases hfound
  · split at hfound <;> cases hfound
    obtain ⟨f, _, rfl⟩ := List.mem_map.1 hv
    exact ⟨rfl, rfl⟩

namespace Registry.ReportsOwn

variable {r : Registry} {outcome : Task p → Outcome}

theorem violations (h : r.ReportsOwn outcome) {t : Task p} (ht : t ∈ r.tasks p) {v : Violation}
    (hv : v ∈ t.violations (outcome t)) : v.rule = t.rule.id ∧ v.isAboutInput = false := by
  cases hout : outcome t with
  | found found =>
    rw [hout] at hv
    exact h t ht found hout v hv
  | fault cause =>
    rw [hout] at hv
    obtain rfl := List.mem_singleton.1 hv
    exact ⟨rfl, rfl⟩

theorem flatMap_tasks_filter (h : r.ReportsOwn outcome) (chosen : String → Bool) :
    ((r.filter fun rule => chosen rule.id.text).tasks p).flatMap (fun t => t.violations (outcome t)) =
      ((r.tasks p).flatMap fun t => t.violations (outcome t)).filter fun v =>
        v.isAboutInput || chosen v.rule.text := by
  have hrule : ∀ rule ∈ r.rules,
      ((rule.tasks p).flatMap fun t => t.violations (outcome t)).filter
          (fun v => v.isAboutInput || chosen v.rule.text) =
        if chosen rule.id.text then (rule.tasks p).flatMap fun t => t.violations (outcome t)
        else [] := by
    intro rule hmem
    have hown : ∀ v ∈ (rule.tasks p).flatMap fun t => t.violations (outcome t),
        (v.isAboutInput || chosen v.rule.text) = chosen rule.id.text := by
      intro v hv
      obtain ⟨t, ht, hv⟩ := List.mem_flatMap.1 hv
      obtain ⟨hid, habout⟩ := h.violations (List.mem_flatMap.2 ⟨rule, hmem, ht⟩) hv
      rw [habout, hid, Rule.rule_of_mem_tasks ht, Bool.false_or]
    rw [List.filter_congr hown]
    cases chosen rule.id.text <;> simp
  calc ((r.filter fun rule => chosen rule.id.text).tasks p).flatMap
        (fun t => t.violations (outcome t))
      = r.rules.flatMap fun rule => if chosen rule.id.text
          then (rule.tasks p).flatMap fun t => t.violations (outcome t) else [] := by
        rw [tasks, List.flatMap_assoc, filter, flatMap_filter]
    _ = r.rules.flatMap fun rule => ((rule.tasks p).flatMap fun t =>
          t.violations (outcome t)).filter fun v => v.isAboutInput || chosen v.rule.text :=
        (List.flatMap_congr hrule).symm
    _ = _ := by rw [tasks, List.flatMap_assoc, List.filter_flatMap]

end Registry.ReportsOwn

theorem Project.evaluate_filter {r : Registry} {outcome : Task p → Outcome}
    (h : r.ReportsOwn outcome) (levels : Levels) (chosen : String → Bool) :
    p.evaluate (r.filter fun rule => chosen rule.id.text) levels outcome =
      (p.evaluate r levels outcome).filter fun v => v.isAboutInput || chosen v.rule.text := by
  rw [evaluate_eq, evaluate_eq, h.flatMap_tasks_filter, Violation.filter_sort,
    levels.filter_apply fun _ _ => rfl]

end LookML
