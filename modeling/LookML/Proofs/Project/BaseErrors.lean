import LookML.Proofs.Layer.Block
import LookML.Proofs.Project.Rearrangement
/-!
# Complaints about bases

Bases that are not defined, cycles and chains that are cut are complained about at one stage of the
build each. No other stage complains about bases.
-/

namespace LookML

def ResolutionError.isAboutBases : ResolutionError → Bool
  | .extendsCycle .. | .extendsTooDeep .. | .extendsNotFound .. => true
  | _ => false

theorem ResolutionError.isAboutBases_of_isCycle {error : ResolutionError}
    (h : error.isCycle = true) : error.isAboutBases = true := by
  cases error <;> first | rfl | cases h

def SparesBases (errors : List ResolutionError) : Prop :=
  ∀ error ∈ errors, error.isAboutBases = false

theorem SparesBases.append {errors errors' : List ResolutionError} (h : SparesBases errors)
    (h' : SparesBases errors') : SparesBases (errors ++ errors') := by
  intro error herror
  rcases List.mem_append.1 herror with hmem | hmem
  · exact h error hmem
  · exact h' error hmem

theorem SparesBases.flatMap {α : Type} {f : α → List ResolutionError}
    (h : ∀ x, SparesBases (f x)) (xs : List α) : SparesBases (xs.flatMap f) := by
  intro error herror
  obtain ⟨x, _, hx⟩ := List.mem_flatMap.1 herror
  exact h x error hx

theorem SparesBases.filterMap {α : Type} {f : α → Option ResolutionError}
    (h : ∀ x, SparesBases (f x).toList) (xs : List α) : SparesBases (xs.filterMap f) := by
  intro error herror
  obtain ⟨x, _, hx⟩ := List.mem_filterMap.1 herror
  exact h x error (by simp [hx])

/-! ## Collecting definitions -/

theorem Layer.sparesBases_ofBlock (owner : EntityName) (b : Block) :
    SparesBases (ofBlock owner b).2 := by
  intro error herror
  obtain ⟨_, _, _, _, _, _, rfl⟩ := exists_of_mem_ofBlock herror
  rfl

namespace Definition

theorem sparesBases_define (key : EntityKey) (b : Block) (ds : List Definition) :
    SparesBases (define key b ds).2 := by
  induction ds with
  | nil => exact Layer.sparesBases_ofBlock key.name b
  | cons d ds ih =>
    rw [define]
    split
    · intro error herror
      rw [List.mem_singleton.1 herror]
      rfl
    · exact ih

theorem sparesBases_refineTarget (kind : EntityKind) (target : String) (b : Block)
    (ds : List Definition) : SparesBases (refineTarget kind target b ds).2 := by
  induction ds with
  | nil =>
    intro error herror
    rw [List.mem_singleton.1 herror]
    rfl
  | cons d ds ih =>
    rw [refineTarget]
    split
    · exact Layer.sparesBases_ofBlock d.key.name b
    · exact ih

theorem sparesBases_addAll
    {step : List Definition → Declaration → List Definition × List ResolutionError}
    (hstep : ∀ ds d, SparesBases (step ds d).2) (ds : List Definition)
    (declarations : List Declaration) : SparesBases (addAll step ds declarations).2 := by
  induction declarations generalizing ds with
  | nil => exact fun error herror => nomatch herror
  | cons d rest ih => exact (hstep ds d).append (ih _)

theorem sparesBases_collect (blocks : List Block) : SparesBases (collect blocks).2 := by
  apply SparesBases.append
  · apply sparesBases_addAll
    rintro ds (⟨key, b⟩ | ⟨kind, target, b⟩)
    · exact sparesBases_define key b ds
    · exact fun error herror => nomatch herror
  · apply sparesBases_addAll
    rintro ds (⟨key, b⟩ | ⟨kind, target, b⟩)
    · exact fun error herror => nomatch herror
    · exact sparesBases_refineTarget kind target b ds

end Definition

namespace Project

/-! ## Checking references -/

theorem sparesBases_checkField (view : Entity) (user : String) (location : Location)
    (r : Reference) : SparesBases (checkField view user location r).toList := by
  unfold checkField
  split
  · exact fun error herror => nomatch herror
  · intro error herror
    rw [Option.mem_toList, Option.some.injEq] at herror
    rw [← herror]
    rfl

theorem sparesBases_checkExplore (p : Project) (explore : Entity) :
    SparesBases (p.checkExplore explore) := by
  refine ((?_ : SparesBases _).append (.filterMap (fun join => ?_) _)).append
    (.flatMap (fun property => .filterMap (fun r => ?_) _) _)
  · unfold checkBaseView
    split <;> intro error herror <;> simp_all [ResolutionError.isAboutBases]
  · unfold checkJoinView
    split <;> intro error herror <;> simp_all [ResolutionError.isAboutBases]
  · intro error herror
    rw [Option.mem_toList, checkExploreReference, Option.bind_eq_bind,
      Option.bind_eq_some_iff] at herror
    obtain ⟨name, _, herror⟩ := herror
    split at herror
    · rw [Option.some.injEq] at herror
      rw [← herror]
      rfl
    · rw [Option.bind_eq_bind, Option.bind_eq_some_iff] at herror
      obtain ⟨view, _, herror⟩ := herror
      exact sparesBases_checkField view _ _ r error (Option.mem_toList.2 herror)

theorem sparesBases_checkFieldOf (p : Project) (aliases : List String) (view : Entity)
    (field : Member) : SparesBases (p.checkFieldOf aliases view field) := by
  refine .flatMap (fun property => .filterMap (fun r => ?_) _) _
  unfold checkFieldReference
  split
  · exact sparesBases_checkField _ _ _ r
  · split
    · exact sparesBases_checkField _ _ _ r
    · split
      · exact sparesBases_checkField _ _ _ r
      · split <;> intro error herror <;> simp_all [ResolutionError.isAboutBases]

theorem sparesBases_checkReferences (p : Project) : SparesBases p.checkReferences :=
  .append (.flatMap p.sparesBases_checkExplore _)
    (.flatMap (fun (view, field) => p.sparesBases_checkFieldOf _ view field) _)

/-! ## Main statements -/

variable {documents : List Document}

theorem exists_of_mem_missingErrors {error : ResolutionError}
    (h : error ∈ missingErrors documents) :
    ∃ d ∈ definitions documents, ∃ base ∈ Definition.missingBases (definitions documents) d,
      ∃ location, error = .extendsNotFound d.key base location := by
  obtain ⟨d, hd, herror⟩ := List.mem_flatMap.1 h
  obtain ⟨base, hbase, rfl⟩ := List.mem_map.1 herror
  exact ⟨d, hd, base, hbase, _, rfl⟩

theorem exists_of_mem_tooDeepErrors [Extends.ComponentFinder] {error : ResolutionError}
    (h : error ∈ tooDeepErrors documents) :
    ∃ d ∈ definitions documents,
      (Definition.mergedIn (definitions documents) d).truncated = true ∧
        error = .extendsTooDeep d.key d.location := by
  obtain ⟨d, hd, herror⟩ := List.mem_filterMap.1 h
  unfold Definition.tooDeepError? at herror
  split at herror
  · rename_i htruncated
    exact ⟨d, hd, htruncated, (Option.some.inj herror).symm⟩
  · cases herror

theorem mem_errors_iff [Extends.ComponentFinder] {error : ResolutionError}
    (h : error.isAboutBases = true) :
    error ∈ (build documents).2 ↔ error ∈ missingErrors documents ∨
      error ∈ Definition.cycleErrors (definitions documents) ∨
        error ∈ tooDeepErrors documents := by
  have hspared : ∀ {errors : List ResolutionError}, SparesBases errors → error ∉ errors := by
    intro errors hspares hmem
    rw [hspares error hmem] at h
    cases h
  have hcollect := hspared (Definition.sparesBases_collect (documents.flatMap Document.blocks))
  have hreferences := hspared (sparesBases_checkReferences (build documents).1)
  rw [errors_build]
  simp only [List.mem_append, hcollect, hreferences, false_or, or_false, or_assoc]

theorem filter_isCycle_build [Extends.ComponentFinder] (documents : List Document) :
    (build documents).2.filter (·.isCycle) =
      Definition.cycleErrors (definitions documents) := by
  have hspared : ∀ {errors : List ResolutionError}, SparesBases errors →
      errors.filter (·.isCycle) = [] := by
    intro errors hspares
    apply List.filter_eq_nil_iff.2
    intro error herror hcycle
    have habout := error.isAboutBases_of_isCycle hcycle
    rw [hspares error herror] at habout
    cases habout
  have hmissing : (missingErrors documents).filter (·.isCycle) = [] := by
    apply List.filter_eq_nil_iff.2
    intro error herror
    obtain ⟨_, _, _, _, _, rfl⟩ := exists_of_mem_missingErrors herror
    simp [ResolutionError.isCycle]
  have hdeep : (tooDeepErrors documents).filter (·.isCycle) = [] := by
    apply List.filter_eq_nil_iff.2
    intro error herror
    obtain ⟨_, _, _, rfl⟩ := exists_of_mem_tooDeepErrors herror
    simp [ResolutionError.isCycle]
  have hcycles : (Definition.cycleErrors (definitions documents)).filter (·.isCycle) =
      Definition.cycleErrors (definitions documents) :=
    List.filter_eq_self.2 fun _ => Definition.isCycle_of_mem_cycleErrors
  rw [errors_build]
  simp only [List.filter_append, hmissing, hdeep, hcycles,
    hspared (Definition.sparesBases_collect _), hspared (sparesBases_checkReferences _),
    List.nil_append, List.append_nil]

end Project

end LookML
