import LookML.Evaluation
import Mathlib.Data.List.FinRange
import Mathlib.Data.List.Nodup
/-!
# Instances and their subjects

A rule is pointed at places in the project. What it is shown there is everything of its scope, each
once: a rule about fields sees every field of every view that is not a template, a rule about files
every document, and a rule about the project the project.
-/

namespace LookML

/-- Everything in a project that a rule of the scope is meant for. -/
def Scope.subjects : (s : Scope) → Project → List s.Subject
  | field, p => p.viewFields
  | file, p => p.documents
  | project, p => [p]

theorem map_getElem_finRange {α : Type} (l : List α) :
    (List.finRange l.length).map (fun i => l[i]) = l := by
  apply List.ext_getElem
  · simp
  · intro i _ _
    simp

namespace Instance

variable {p : Project}

theorem map_subject?_fields (p : Project) :
    (fields p).map (subject? .field) = p.viewFields.map some := by
  have hviews : p.views.filter (!·.isTemplate) =
      ((List.finRange p.entities.length).filter fun i =>
        p.entities[i].kind = .view && !p.entities[i].isTemplate).map fun i => p.entities[i] := by
    have hget := map_getElem_finRange p.entities
    conv_lhs => rw [Project.views, ← hget]
    rw [List.filter_filter, List.filter_map]
    congr 2
    funext i
    exact Bool.and_comm _ _
  rw [Project.viewFields, hviews, fields, List.flatMap_map, List.map_flatMap, List.map_flatMap]
  congr 1
  funext i
  conv_rhs => rw [← map_getElem_finRange p.entities[i].fields]
  simp only [List.map_map]
  rfl

theorem map_subject?_files (p : Project) :
    (files p).map (subject? .file) = p.documents.map some := by
  conv_rhs => rw [← map_getElem_finRange p.documents]
  simp only [files, List.map_map]
  rfl

theorem map_subject?_ofScope (p : Project) (s : Scope) :
    (ofScope p s).map (subject? s) = (s.subjects p).map some := by
  cases s with
  | field => exact map_subject?_fields p
  | file => exact map_subject?_files p
  | project => rfl

theorem nodup_ofScope (p : Project) (s : Scope) : (ofScope p s).Nodup := by
  cases s with
  | field =>
    apply List.nodup_flatMap.2
    constructor
    · intro i _
      exact (List.nodup_finRange _).map fun _ _ h => by cases h; rfl
    · have hplaces := (List.nodup_finRange p.entities.length).filter fun i =>
        p.entities[i].kind = .view && !p.entities[i].isTemplate
      apply hplaces.imp
      intro i j hne x hi hj
      obtain ⟨k, _, rfl⟩ := List.mem_map.1 hi
      obtain ⟨l, _, heq⟩ := List.mem_map.1 hj
      cases heq
      exact hne rfl
  | file => exact (List.nodup_finRange _).map fun _ _ h => by cases h; rfl
  | project => exact List.nodup_singleton _

end Instance

/-! ## Tasks -/

theorem Rule.nodup_tasks (rule : Rule) (p : Project) : (rule.tasks p).Nodup :=
  (Instance.nodup_ofScope p rule.scope).map fun _ _ h => by cases h; rfl

theorem Rule.rule_of_mem_tasks {rule : Rule} {p : Project} {t : Task p} (h : t ∈ rule.tasks p) :
    t.rule = rule := by
  obtain ⟨x, _, rfl⟩ := List.mem_map.1 h
  rfl

/-- No rule is pointed at the same instance twice, as no two rules have the same id. -/
theorem Registry.nodup_tasks (r : Registry) (p : Project) : (r.tasks p).Nodup := by
  apply List.nodup_flatMap.2
  constructor
  · exact fun rule _ => rule.nodup_tasks p
  · apply r.nodup.of_map.imp
    intro rule rule' hne t h h'
    exact hne ((Rule.rule_of_mem_tasks h).symm.trans (Rule.rule_of_mem_tasks h'))

end LookML
