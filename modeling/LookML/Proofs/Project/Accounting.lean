import LookML.Proofs.Definition.Accounting
import LookML.Proofs.Project.BaseErrors
import LookML.Proofs.Project.References
/-!
# Every block is accounted for

A view or explore that has a name is the definition that counts, or is reported as a repetition of
it, or is among its refinements, or is reported because its target is never defined. The model
consists of the definitions that count, in input order.
-/

namespace LookML

namespace Fates

variable {blocks before rest : List Block} {fates : List (Block × Fate)} {b : Block} {fate : Fate}

theorem meets_of_mem (h : Fates blocks before rest fates) (hmem : (b, fate) ∈ fates) :
    ∃ earlier later, rest = earlier ++ b :: later ∧ b.Meets blocks (before ++ earlier) fate := by
  induction h with
  | nil => cases hmem
  | @other before rest c fates _ _ ih =>
    obtain ⟨earlier, later, rfl, hmeets⟩ := ih hmem
    exact ⟨c :: earlier, later, rfl, by rwa [List.append_assoc] at hmeets⟩
  | @meets before rest c fate' fates hfate _ ih =>
    rcases List.mem_cons.1 hmem with heq | hmem
    · cases heq
      exact ⟨[], rest, rfl, by rwa [List.append_nil]⟩
    · obtain ⟨earlier, later, rfl, hmeets⟩ := ih hmem
      exact ⟨c :: earlier, later, rfl, by rwa [List.append_assoc] at hmeets⟩

end Fates

namespace Project

/-- The model and the errors are as the fates of the blocks have it. -/
structure Accounts (p : Project) (errors : List ResolutionError) (fates : List (Block × Fate)) :
    Prop where
  /-- the entities are the definitions that are kept, in input order -/
  kept : p.entities.map (fun e => (e.key, e.location)) = fates.filterMap Fate.kept?
  /-- what a repetition repeats is kept -/
  repeated : ∀ b key first, (b, .repeated key first) ∈ fates →
    ∃ e ∈ p.entities, e.key = key ∧ e.location = first.location
  /-- what a refinement refines is kept -/
  refined : ∀ b key, (b, .refines key) ∈ fates → ∃ e ∈ p.entities, e.key = key
  /-- the refinements of an entity, in input order -/
  refinements : ∀ e ∈ p.entities, e.refinements = fates.filterMap (Fate.refinement? e.key)
  /-- repetitions and refinements of nothing are reported once each, at their places -/
  reported : errors.filter (·.isAboutBlock) =
    fates.filterMap Fate.duplicate? ++ fates.filterMap Fate.undefined?
  /-- nothing else is reported to be defined twice -/
  duplicates : (errors.map ResolutionError.toViolation).filter (·.rule.text = "duplicate_entity") =
    (fates.filterMap Fate.duplicate?).map ResolutionError.toViolation
  distinct : (p.entities.map Entity.key).Nodup
  found : ∀ kind name e,
    p.entity? kind name = some e ↔ e ∈ p.entities ∧ e.kind = kind ∧ e.name = name

variable {documents : List Document} {fates : List (Block × Fate)}

theorem map_head_entities [Extends.ComponentFinder] (documents : List Document) :
    (build documents).1.entities.map (fun e => (e.key, e.location)) =
      (definitions documents).map Definition.head := by
  rw [entities_build_eq_map, List.map_map]
  rfl

/-! ## Errors -/

theorem filter_isAboutBlock_checkReferences [Extends.ComponentFinder] (documents : List Document) :
    (build documents).1.checkReferences.filter (·.isAboutBlock) = [] := by
  apply List.filter_eq_nil_iff.2
  intro error herror
  rw [checkReferences_eq_filterMap] at herror
  obtain ⟨use, huse, hcomplaint⟩ := List.mem_filterMap.1 herror
  obtain ⟨why, hdangling, rfl⟩ := (unambiguous_build documents).dangling_of_complaint? huse hcomplaint
  cases hdangling <;> simp [Use.report, ResolutionError.isAboutBlock]

theorem filter_isAboutBlock_build [Extends.ComponentFinder] (documents : List Document) :
    (build documents).2.filter (·.isAboutBlock) =
      (Definition.collect (documents.flatMap Document.blocks)).2.filter (·.isAboutBlock) := by
  have hmissing : (missingErrors documents).filter (·.isAboutBlock) = [] := by
    apply List.filter_eq_nil_iff.2
    intro error herror
    obtain ⟨_, _, _, _, _, rfl⟩ := exists_of_mem_missingErrors herror
    simp [ResolutionError.isAboutBlock]
  have hcycles : (Definition.cycleErrors (definitions documents)).filter (·.isAboutBlock) = [] := by
    apply List.filter_eq_nil_iff.2
    intro error herror habout
    have hcycle := Definition.isCycle_of_mem_cycleErrors herror
    cases error with
    | extendsCycle => cases habout
    | _ => cases hcycle
  have hdeep : (tooDeepErrors documents).filter (·.isAboutBlock) = [] := by
    apply List.filter_eq_nil_iff.2
    intro error herror
    obtain ⟨_, _, _, rfl⟩ := exists_of_mem_tooDeepErrors herror
    simp [ResolutionError.isAboutBlock]
  rw [errors_build]
  simp only [List.filter_append, hmissing, hcycles, hdeep,
    filter_isAboutBlock_checkReferences, List.append_nil]

theorem filter_duplicates {errors : List ResolutionError} {fates : List (Block × Fate)}
    (h : errors.filter (·.isAboutBlock) =
      fates.filterMap Fate.duplicate? ++ fates.filterMap Fate.undefined?) :
    (errors.map ResolutionError.toViolation).filter (·.rule.text = "duplicate_entity") =
      (fates.filterMap Fate.duplicate?).map ResolutionError.toViolation := by
  have habout : errors.filter (fun error => error.ruleId.text = "duplicate_entity") =
      (errors.filter (·.isAboutBlock)).filter (fun error => error.ruleId.text = "duplicate_entity")
      := by
    rw [List.filter_filter]
    apply List.filter_congr
    intro error _
    cases error <;> rfl
  have hduplicate : (fates.filterMap Fate.duplicate?).filter
      (fun error => error.ruleId.text = "duplicate_entity") = fates.filterMap Fate.duplicate? := by
    apply List.filter_eq_self.2
    intro error herror
    obtain ⟨⟨b, fate⟩, _, heq⟩ := List.mem_filterMap.1 herror
    cases fate <;> cases heq
    rfl
  have hundefined : (fates.filterMap Fate.undefined?).filter
      (fun error => error.ruleId.text = "duplicate_entity") = [] := by
    apply List.filter_eq_nil_iff.2
    intro error herror
    obtain ⟨⟨b, fate⟩, _, heq⟩ := List.mem_filterMap.1 herror
    cases fate <;> cases heq
    simp [ResolutionError.ruleId]
  have hrule : ((fun v : Violation => decide (v.rule.text = "duplicate_entity")) ∘
      ResolutionError.toViolation) =
        fun error : ResolutionError => decide (error.ruleId.text = "duplicate_entity") := rfl
  rw [List.filter_map, hrule, habout, h, List.filter_append, hduplicate, hundefined,
    List.append_nil]

/-! ## Main statement -/

theorem accounts_of_fates [Extends.ComponentFinder]
    (hfates : Fates (documents.flatMap Document.blocks) [] (documents.flatMap Document.blocks)
      fates) : Accounts (build documents).1 (build documents).2 fates := by
  obtain ⟨hkept, herrors, hrefinements⟩ := Definition.collect_of_fates hfates
  constructor
  · rw [map_head_entities]
    exact hkept
  · intro b key first hmem
    obtain ⟨earlier, later, hblocks, hmeets⟩ := hfates.meets_of_mem hmem
    cases hmeets with
    | repeated _ hearlier hfirst hnone =>
      rw [List.nil_append] at hearlier
      rw [hearlier, List.append_assoc, List.cons_append] at hblocks
      obtain ⟨d, hd, hkey, hlocation⟩ := Definition.exists_location_eq
        (Block.find?_defines_eq_some_iff.2 ⟨hfirst, _, _, hblocks, hnone⟩)
      exact ⟨_, toEntity_mem_entities hd, hkey, hlocation⟩
  · intro b key hmem
    obtain ⟨_, _, _, hmeets⟩ := hfates.meets_of_mem hmem
    cases hmeets with
    | refines _ hdefined =>
      obtain ⟨d, hd, hkey⟩ := List.mem_map.1 ((Definition.mem_keys_collect_iff _ key).2 hdefined)
      exact ⟨_, toEntity_mem_entities hd, hkey⟩
  · intro e he
    rw [entities_build_eq_map] at he
    obtain ⟨d, hd, rfl⟩ := List.mem_map.1 he
    exact hrefinements d hd
  · rw [filter_isAboutBlock_build]
    exact herrors
  · apply filter_duplicates
    rw [filter_isAboutBlock_build]
    exact herrors
  · rw [keys_entities]
    exact nodup_keys_definitions documents
  · exact entity?_eq_some_iff documents

/-- Each view or explore that has a name meets one fate, and the model and its errors are as the
fates have it. -/
theorem blocks_accounted [Extends.ComponentFinder] (documents : List Document) :
    (∀ (before : List Block) (b : Block),
      (∃! fate, b.Meets (documents.flatMap Document.blocks) before fate) ↔
        (EntityKind.ofBlockKind? b.kind).isSome ∧ ∃ name, b.name = some name ∧ name ≠ "") ∧
    ∃ fates, Fates (documents.flatMap Document.blocks) [] (documents.flatMap Document.blocks)
      fates ∧ Accounts (build documents).1 (build documents).2 fates := by
  obtain ⟨fates, hfates⟩ := Fates.exists (documents.flatMap Document.blocks) []
    (documents.flatMap Document.blocks)
  exact ⟨fun _ _ => Block.existsUnique_meets_iff, fates, hfates, accounts_of_fates hfates⟩

end Project

end LookML
