import LookML.Proofs.Definition.Separation
import LookML.Proofs.Project.BaseErrors
import LookML.Proofs.Project.Names
/-!
# Projects that have nothing to do with one another

If the documents are split in two parts that use no name in common, the project is split in the
same way: each entity is the one that its part has without the other, and each problem is one that
its part has without the other.
-/

namespace LookML.Project

variable {mine : String → Prop}

theorem mem_entities_of_explore {p : Project} {e : Entity} (he : e ∈ p.explores) : e ∈ p.entities :=
  (List.mem_filter.1 he).1

theorem mem_entities_of_viewField {p : Project} {view : Entity} {field : Member}
    (h : (view, field) ∈ p.viewFields) : view ∈ p.entities ∧ field ∈ view.fields := by
  obtain ⟨v, hv, hfield⟩ := List.mem_flatMap.1 h
  obtain ⟨f, hf, heq⟩ := List.mem_map.1 hfield
  cases heq
  exact ⟨(List.mem_filter.1 (List.mem_filter.1 hv).1).1, hf⟩

/-- The project is split in two: the entities of `first` have names in `mine` and use no others,
those of `second` have other names and use none in `mine`. -/
structure Splits (mine : String → Prop) (p first second : Project) : Prop where
  entities : Split p.entities first.entities second.entities
  documents : Split p.documents first.documents second.documents
  within_first : ∀ e ∈ first.entities, e.Within mine
  within_second : ∀ e ∈ second.entities, e.Within (¬ mine ·)

namespace Splits

variable {p first second : Project}

theorem swap (h : p.Splits mine first second) : p.Splits (¬ mine ·) second first where
  entities := h.entities.swap
  documents := h.documents.swap
  within_first := h.within_second
  within_second := fun e he => (h.within_first e he).mono fun _ => not_not_intro

theorem explores (h : p.Splits mine first second) :
    Split p.explores first.explores second.explores :=
  h.entities.filter _

theorem views (h : p.Splits mine first second) : Split p.views first.views second.views :=
  h.entities.filter _

theorem viewFields (h : p.Splits mine first second) :
    Split p.viewFields first.viewFields second.viewFields :=
  (h.views.filter _).flatMap _

/-! ## References -/

theorem view?_eq (h : p.Splits mine first second) {name : String} (hname : mine name) :
    p.view? name = first.view? name := by
  apply h.entities.find?_eq
  intro e he hfound
  simp only [Bool.and_eq_true, decide_eq_true_eq] at hfound
  exact (h.within_second e he).name (hfound.2 ▸ hname)

theorem mem_aliases_iff (h : p.Splits mine first second) {name : String} (hname : mine name) :
    name ∈ p.aliases ↔ name ∈ first.aliases := by
  rw [aliases, aliases, List.mem_flatMap, List.mem_flatMap]
  apply h.explores.exists_mem_iff
  intro e he hmem
  exact (h.within_second e (mem_entities_of_explore he)).aliases hmem hname

theorem checkExplore_eq (h : p.Splits mine first second) {explore : Entity}
    (hexplore : explore ∈ first.explores) : p.checkExplore explore = first.checkExplore explore := by
  have hwithin := h.within_first explore (mem_entities_of_explore hexplore)
  exact checkExplore_congr (h.view?_eq hwithin.baseView) fun j hj =>
    h.view?_eq (hwithin.targetView hj)

theorem checkFieldOf_eq (h : p.Splits mine first second) {view : Entity} {field : Member}
    (hfield : (view, field) ∈ first.viewFields) :
    p.checkFieldOf p.aliases view field = first.checkFieldOf first.aliases view field := by
  obtain ⟨hview, hmem⟩ := mem_entities_of_viewField hfield
  apply checkFieldOf_congr
  intro property hproperty r hr scope hscope
  have hmine := (h.within_first view hview).scope hmem hproperty hr hscope
  exact ⟨h.view?_eq hmine, h.mem_aliases_iff hmine⟩

theorem checkReferences_perm_append (h : p.Splits mine first second) :
    p.checkReferences.Perm (first.checkReferences ++ second.checkReferences) := by
  apply append_perm_append
  · apply (h.explores.filter _).flatMap_perm
    · exact fun e he => h.checkExplore_eq (List.mem_filter.1 he).1
    · exact fun e he => h.swap.checkExplore_eq (List.mem_filter.1 he).1
  · apply h.viewFields.flatMap_perm
    · exact fun (view, field) hfield => h.checkFieldOf_eq hfield
    · exact fun (view, field) hfield => h.swap.checkFieldOf_eq hfield

end Splits

/-! ## Building -/

section Build

variable {documents first second : List Document} (h : Split documents first second)
  (hfirst : ∀ b ∈ first.flatMap Document.blocks, ∀ name ∈ b.names, mine name)
  (hsecond : ∀ b ∈ second.flatMap Document.blocks, ∀ name ∈ b.names, ¬ mine name)
include h hfirst hsecond

theorem separate_definitions :
    Definition.Separate mine (definitions documents) (definitions first) (definitions second) where
  split := (Definition.split_collect (h.flatMap _) hfirst hsecond).1
  nodup := nodup_keys_definitions documents
  name_first := fun _ hd => (Definition.within_of_mem_collect hfirst hd).1
  within_first := fun _ hd => (Definition.within_of_mem_collect hfirst hd).2
  name_second := fun _ hd => (Definition.within_of_mem_collect hsecond hd).1
  within_second := fun _ hd => (Definition.within_of_mem_collect hsecond hd).2

theorem splits_build [Extends.ComponentFinder] :
    (build documents).1.Splits mine (build first).1 (build second).1 where
  entities := by
    have hseparate := separate_definitions h hfirst hsecond
    have hsplit := hseparate.split.map fun d =>
      d.toEntity (Definition.mergedIn (definitions documents) d)
    have hown : ∀ {ds : List Definition}, Definition.Part ds (definitions documents) →
        (ds.map fun d => d.toEntity (Definition.mergedIn (definitions documents) d)) =
          ds.map fun d => d.toEntity (Definition.mergedIn ds d) := by
      intro ds hpart
      apply List.map_congr_left
      intro d hd
      rw [hpart.mergedIn_eq hd]
    rw [hown hseparate.part, hown hseparate.swap.part] at hsplit
    rwa [entities_build_eq_map, entities_build_eq_map, entities_build_eq_map]
  documents := h
  within_first := within_entities hfirst
  within_second := within_entities hsecond

theorem missingErrors_perm_append :
    (missingErrors documents).Perm (missingErrors first ++ missingErrors second) := by
  have hseparate := separate_definitions h hfirst hsecond
  apply hseparate.split.flatMap_perm
  · exact fun d hd => hseparate.part.missingBaseErrors_eq hd
  · exact fun d hd => hseparate.swap.part.missingBaseErrors_eq hd

theorem tooDeepErrors_perm_append [Extends.ComponentFinder] :
    (tooDeepErrors documents).Perm (tooDeepErrors first ++ tooDeepErrors second) := by
  have hseparate := separate_definitions h hfirst hsecond
  apply hseparate.split.filterMap_perm
  · intro d hd
    rw [hseparate.part.mergedIn_eq hd]
  · intro d hd
    rw [hseparate.swap.part.mergedIn_eq hd]

theorem errors_perm_append [Extends.ComponentFinder] :
    (build documents).2.Perm ((build first).2 ++ (build second).2) := by
  have hcollect := (Definition.split_collect (h.flatMap Document.blocks) hfirst hsecond).2
  have hseparate := separate_definitions h hfirst hsecond
  rw [errors_build, errors_build, errors_build]
  apply append_perm_append
  · apply append_perm_append
    · apply append_perm_append
      · exact append_perm_append hcollect (missingErrors_perm_append h hfirst hsecond)
      · exact hseparate.cycleErrors_perm_append
    · exact tooDeepErrors_perm_append h hfirst hsecond
  · exact (splits_build h hfirst hsecond).checkReferences_perm_append

end Build

end LookML.Project
