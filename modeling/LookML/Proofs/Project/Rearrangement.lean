import LookML.Library
import LookML.Proofs.Definition.Rearrangement
import LookML.Proofs.Project.Entities
import Mathlib.Data.List.Perm.Basic
/-!
# Projects in another order

The order of documents and of their top-level blocks decides neither what the entities are nor
what is reported, as long as nothing is defined twice and the refinements of each target keep their
order. Only the reports of cycles name the member that comes first.
-/

namespace LookML

def ResolutionError.isCycle : ResolutionError → Bool
  | .extendsCycle .. => true
  | _ => false

theorem Definition.isCycle_of_mem_cycleErrors [Extends.ComponentFinder] {ds : List Definition}
    {error : ResolutionError} (h : error ∈ cycleErrors ds) : error.isCycle = true := by
  obtain ⟨members, _, hmembers⟩ := List.mem_filterMap.1 h
  simp only [Option.bind_eq_bind, Option.bind_eq_some_iff, Option.pure_def,
    Option.some.injEq] at hmembers
  obtain ⟨start, _, d, _, rfl⟩ := hmembers
  rfl

namespace Project

/-! ## References -/

section References

variable {p p' : Project}

theorem checkExplore_congr {explore : Entity}
    (hbase : p.view? explore.baseView = p'.view? explore.baseView)
    (hjoins : ∀ j ∈ explore.joins, p.view? j.targetView = p'.view? j.targetView) :
    p.checkExplore explore = p'.checkExplore explore := by
  have hbaseView : p.checkBaseView explore = p'.checkBaseView explore := by
    unfold checkBaseView
    rw [hbase]
  have hjoinViews : explore.joins.filterMap (p.checkJoinView explore) =
      explore.joins.filterMap (p'.checkJoinView explore) := by
    apply List.filterMap_congr
    intro j hj
    unfold checkJoinView
    rw [hjoins j hj]
  have halias : ∀ {name view : String}, explore.viewOfAlias? name = some view →
      p.view? view = p'.view? view := by
    intro name view h
    rcases Option.or_eq_some_iff.1 h with hjoin | ⟨_, hsome⟩
    · obtain ⟨j, hj, rfl⟩ := Option.map_eq_some_iff.1 hjoin
      exact hjoins j (List.mem_of_find?_eq_some hj)
    · rw [Option.ite_none_right_eq_some, Option.some.injEq] at hsome
      exact hsome.2 ▸ hbase
  have hreference : p.checkExploreReference explore = p'.checkExploreReference explore := by
    funext location r
    unfold checkExploreReference
    congr 1
    funext name
    cases hview : explore.viewOfAlias? name with
    | none => rfl
    | some view => simp only [halias hview]
  unfold checkExplore
  rw [hbaseView, hjoinViews, hreference]

theorem checkFieldOf_congr {aliases aliases' : List String} {view : Entity} {field : Member}
    (h : ∀ property ∈ fieldSql field, ∀ r ∈ referencesOf property, ∀ scope, r.scope = some scope →
      p.view? scope = p'.view? scope ∧ (scope ∈ aliases ↔ scope ∈ aliases')) :
    p.checkFieldOf aliases view field = p'.checkFieldOf aliases' view field := by
  apply List.flatMap_congr
  intro property hproperty
  apply List.filterMap_congr
  intro r hr
  unfold checkFieldReference
  cases hscope : r.scope with
  | none => rfl
  | some scope =>
    obtain ⟨hview, haliases⟩ := h property hproperty r hr scope hscope
    simp only [hview, haliases]

theorem checkReferences_perm (hview : p.view? = p'.view?) (h : p.entities.Perm p'.entities) :
    p.checkReferences.Perm p'.checkReferences := by
  have hexplores : p.explores.Perm p'.explores := h.filter _
  have hviewFields : p.viewFields.Perm p'.viewFields :=
    ((h.filter _).filter _).flatMap_right _
  have haliases : p.aliases.Perm p'.aliases := hexplores.flatMap_right _
  have hcheckExplore : p.checkExplore = p'.checkExplore := by
    funext explore
    exact checkExplore_congr (congrFun hview _) fun _ _ => congrFun hview _
  have hcheckField : p.checkFieldOf p.aliases = p'.checkFieldOf p'.aliases := by
    funext view field
    exact checkFieldOf_congr fun _ _ _ _ scope _ => ⟨congrFun hview scope, haliases.mem_iff⟩
  simp only [checkReferences, hcheckExplore, hcheckField]
  exact ((hexplores.filter _).flatMap_right _).append (hviewFields.flatMap_right _)

end References

/-! ## Entities -/

theorem entity?_perm {p p' : Project} (h : p.entities.Perm p'.entities)
    (nodup : (p.entities.map fun e => (e.kind, e.name)).Nodup) : p.entity? = p'.entity? := by
  funext kind name
  have hkey : (fun e : Entity => (decide (e.kind = kind) && decide (e.name = name))) =
      fun e => decide ((e.kind, e.name) = (kind, name)) := by
    funext e
    rw [Bool.eq_iff_iff]
    simp
  unfold entity?
  rw [hkey]
  exact Keyed.find?_perm (fun e : Entity => (e.kind, e.name)) h nodup (kind, name)

/-! ## Main statement -/

section Rearranged

variable {documents documents' : List Document}
  (h : Block.Rearranged (documents.flatMap Document.blocks) (documents'.flatMap Document.blocks))
  (distinct : ((documents.flatMap Document.blocks).filterMap Block.defined?).Nodup)
include h distinct

theorem definitions_perm : (definitions documents).Perm (definitions documents') :=
  Definition.collect_rearranged h distinct

theorem part_definitions : Definition.Part (definitions documents) (definitions documents') :=
  .of_perm (definitions_perm h distinct) (nodup_keys_definitions documents)

theorem entities_perm [Extends.ComponentFinder] : (build documents).1.entities.Perm
    (build documents').1.entities := by
  have hpart := part_definitions h distinct
  have hsame : (build documents).1.entities = (definitions documents).map fun d =>
      d.toEntity (Definition.mergedIn (definitions documents') d) := by
    rw [entities_build_eq_map]
    apply List.map_congr_left
    intro d hd
    rw [hpart.mergedIn_eq hd]
  rw [hsame, entities_build_eq_map]
  exact (definitions_perm h distinct).map _

theorem missingErrors_perm : (missingErrors documents).Perm (missingErrors documents') := by
  have hpart := part_definitions h distinct
  apply List.Perm.flatMap (definitions_perm h distinct)
  intro d hd
  rw [hpart.missingBaseErrors_eq hd]

theorem tooDeepErrors_perm [Extends.ComponentFinder] : (tooDeepErrors documents).Perm
    (tooDeepErrors documents') := by
  have hpart := part_definitions h distinct
  have hsame : tooDeepErrors documents = (definitions documents).filterMap fun d =>
      d.tooDeepError? (Definition.mergedIn (definitions documents') d) := by
    apply List.filterMap_congr
    intro d hd
    rw [hpart.mergedIn_eq hd]
  rw [hsame]
  exact (definitions_perm h distinct).filterMap _

theorem build_rearranged [Extends.ComponentFinder] :
    (∀ kind name, (build documents).1.entity? kind name = (build documents').1.entity? kind name) ∧
      (((build documents).2.filter (!·.isCycle)).map ResolutionError.toViolation).Perm
        (((build documents').2.filter (!·.isCycle)).map ResolutionError.toViolation) := by
  have hentities := entities_perm h distinct
  have hentity? := entity?_perm hentities (nodup_entities documents)
  have hview : (build documents).1.view? = (build documents').1.view? :=
    congrFun hentity? .view
  -- The reports of cycles are the only ones that depend on which definition comes first.
  have hcycles : ∀ ds, (Definition.cycleErrors ds).filter (!·.isCycle) = [] := by
    intro ds
    apply List.filter_eq_nil_iff.2
    intro error herror
    simp [Definition.isCycle_of_mem_cycleErrors herror]
  refine ⟨fun kind name => congrFun (congrFun hentity? kind) name, List.Perm.map _ ?_⟩
  rw [errors_build, errors_build]
  simp only [List.filter_append, hcycles, List.append_nil]
  exact ((((Definition.snd_collect_rearranged h distinct).filter _).append
    ((missingErrors_perm h distinct).filter _)).append
    ((tooDeepErrors_perm h distinct).filter _)).append
    ((checkReferences_perm hview hentities).filter _)

end Rearranged

def viewBlock (name : String) (bases : List String) (field : String) : Block :=
  let l := Location.wholeFile "f"
  .mk .view (some name) [.mk "extends" (.list (bases.map .text)) l]
    [.mk .dimension (some field) [] [] l] l

def heirFirst : List Document :=
  [⟨"f", [], [viewBlock "b" ["a"] "x", viewBlock "+a" [] "y", viewBlock "+a" [] "z",
    viewBlock "a" [] "x"]⟩]

def baseFirst : List Document :=
  [⟨"f", [], [viewBlock "a" [] "x", viewBlock "+a" [] "y"]⟩,
    ⟨"g", [], [viewBlock "b" ["a"] "x", viewBlock "+a" [] "z"]⟩]

theorem rearranged_heirFirst : Block.Rearranged (heirFirst.flatMap Document.blocks)
    (baseFirst.flatMap Document.blocks) where
  perm := by
    have hperm : ∀ b y z a : Block, [b, y, z, a].Perm [a, y, b, z] := by
      intro b y z a
      apply (List.reverse_perm [a, z, y, b]).trans
      apply List.Perm.cons
      apply (List.Perm.swap y z [b]).trans
      exact List.Perm.cons y (List.Perm.swap b z [])
    exact hperm _ _ _ _
  refinements := by
    intro target
    have hb : (viewBlock "b" ["a"] "x").refined? = none := by decide +kernel
    have hy : (viewBlock "+a" [] "y").refined? = some (.view, "a") := by decide +kernel
    have hz : (viewBlock "+a" [] "z").refined? = some (.view, "a") := by decide +kernel
    have ha : (viewBlock "a" [] "x").refined? = none := by decide +kernel
    by_cases htarget : (EntityKind.view, "a") = target
    · simp [heirFirst, baseFirst, hb, hy, hz, ha, htarget]
    · simp [heirFirst, baseFirst, hb, hy, hz, ha, htarget]

theorem build_rearranged_heirFirst :
    (∀ kind name,
        (build heirFirst).1.entity? kind name = (build baseFirst).1.entity? kind name) ∧
      (((build heirFirst).2.filter (!·.isCycle)).map ResolutionError.toViolation).Perm
        (((build baseFirst).2.filter (!·.isCycle)).map ResolutionError.toViolation) :=
  build_rearranged rearranged_heirFirst (by decide +kernel)

end Project

end LookML
