import LookML.Proofs.Definition.Collect
/-!
# Declarations in another order

If no view or explore is defined twice, the definitions and the complaints about them are the same
in every order of the blocks that keeps the order of the refinements of each target.
-/

namespace LookML

namespace Declaration

def defined? : Declaration → Option EntityKey
  | .definition key _ => some key
  | .refinement .. => none

def refined? : Declaration → Option (EntityKind × String)
  | .definition .. => none
  | .refinement kind target _ => some (kind, target)

end Declaration

namespace Block

/-- The key of the view or explore that the block defines. -/
def defined? (b : Block) : Option EntityKey :=
  (Declaration.ofBlock? b).bind Declaration.defined?

def refined? (b : Block) : Option (EntityKind × String) :=
  (Declaration.ofBlock? b).bind Declaration.refined?

theorem defines_eq (key : EntityKey) (b : Block) : b.defines key = (b.defined? == some key) := by
  unfold defines defined?
  cases Declaration.ofBlock? b with
  | none => rfl
  | some declaration =>
    cases declaration with
    | definition k b => rw [Bool.eq_iff_iff]; simp [Declaration.defined?]
    | refinement kind target b => rfl

theorem refines_eq (key : EntityKey) (b : Block) :
    b.refines key = decide (b.refined? = some (key.kind, key.name.text)) := by
  unfold refines refined?
  cases Declaration.ofBlock? b with
  | none => rfl
  | some declaration =>
    cases declaration with
    | definition k b => rfl
    | refinement kind target b => rw [Bool.eq_iff_iff]; simp [Declaration.refined?]

/-- The same blocks in an order that keeps the order of the refinements of each target. -/
structure Rearranged (blocks blocks' : List Block) : Prop where
  perm : blocks.Perm blocks'
  refinements : ∀ target,
    blocks.filter (·.refined? = some target) = blocks'.filter (·.refined? = some target)

variable {blocks blocks' : List Block}

theorem Rearranged.filter_refines (h : Rearranged blocks blocks') (key : EntityKey) :
    blocks.filter (refines key) = blocks'.filter (refines key) := by
  have hrefines : refines key = fun b => decide (b.refined? = some (key.kind, key.name.text)) := by
    funext b
    exact refines_eq key b
  rw [hrefines, h.refinements]

theorem Rearranged.filter_defines (h : Rearranged blocks blocks')
    (distinct : (blocks.filterMap defined?).Nodup) (key : EntityKey) :
    blocks.filter (defines key) = blocks'.filter (defines key) := by
  have hperm := h.perm.filter (defines key)
  have hcount : (blocks.filter (defines key)).length ≤ 1 := by
    have hle := List.nodup_iff_count_le_one.1 distinct key
    rw [List.count_filterMap, List.countP_eq_length_filter] at hle
    simpa only [defines_eq, funext (defines_eq key)] using hle
  match hfilter : blocks.filter (defines key) with
  | [] =>
    rw [hfilter] at hperm
    exact (List.nil_perm.1 hperm).symm
  | [b] =>
    rw [hfilter] at hperm
    exact (List.singleton_perm.1 hperm)
  | b :: c :: bs =>
    rw [hfilter] at hcount
    simp at hcount

end Block

namespace Definition

/-! ## Complaints -/

def definitionErrors : Declaration → List ResolutionError
  | .definition key b => (Layer.ofBlock key.name b).2
  | .refinement .. => []

def refinementErrors (keys : List EntityKey) : Declaration → List ResolutionError
  | .definition .. => []
  | .refinement kind target b =>
    match keys.find? fun key => (key.kind, key.name.text) = (kind, target) with
    | some key => (Layer.ofBlock key.name b).2
    | none => [.unresolved s!"{kind.word}:+{target}" (.undefinedTarget kind target) b.location]

theorem snd_addAll_cons
    (step : List Definition → Declaration → List Definition × List ResolutionError)
    (ds : List Definition) (d : Declaration) (rest : List Declaration) :
    (addAll step ds (d :: rest)).2 = (step ds d).2 ++ (addAll step (step ds d).1 rest).2 := rfl

theorem snd_define {key : EntityKey} (b : Block) {ds : List Definition}
    (h : key ∉ ds.map Definition.key) : (define key b ds).2 = (Layer.ofBlock key.name b).2 := by
  induction ds with
  | nil => rfl
  | cons d ds ih =>
    rw [List.map_cons, List.mem_cons, not_or] at h
    rw [define, if_neg (Ne.symm h.1)]
    exact ih h.2

theorem keys_define {key : EntityKey} (b : Block) {ds : List Definition}
    (h : key ∉ ds.map Definition.key) :
    (define key b ds).1.map Definition.key = ds.map Definition.key ++ [key] := by
  rw [define_eq_put, Keyed.map_put key_addConflict]
  exact if_neg h

theorem snd_addAll_addDefinition {declarations : List Declaration} {ds : List Definition}
    (h : (ds.map Definition.key ++ declarations.filterMap Declaration.defined?).Nodup) :
    (addAll addDefinition ds declarations).2 = declarations.flatMap definitionErrors := by
  induction declarations generalizing ds with
  | nil => rfl
  | cons declaration rest ih =>
    rw [snd_addAll_cons, List.flatMap_cons]
    cases declaration with
    | definition key b =>
      have hcons : (Declaration.definition key b :: rest).filterMap Declaration.defined? =
          key :: rest.filterMap Declaration.defined? := rfl
      rw [hcons, List.append_cons] at h
      have hkey : key ∉ ds.map Definition.key := by
        have hfirst := (List.nodup_append.1 h).1
        intro hmem
        exact (List.nodup_append.1 hfirst).2.2 key hmem key (List.mem_singleton_self key) rfl
      rw [ih (by rw [addDefinition, keys_define b hkey]; exact h)]
      exact congrArg (· ++ _) (snd_define b hkey)
    | refinement kind target b =>
      exact ih h

theorem snd_refineTarget (kind : EntityKind) (target : String) (b : Block)
    (ds : List Definition) :
    (refineTarget kind target b ds).2 =
      refinementErrors (ds.map Definition.key) (.refinement kind target b) := by
  induction ds with
  | nil => rfl
  | cons d ds ih =>
    by_cases h : d.key.kind = kind ∧ d.key.name.text = target
    · simp [refineTarget, refinementErrors, h, refine]
    · have hne : ¬ (d.key.kind, d.key.name.text) = (kind, target) := by
        simpa only [Prod.mk.injEq] using h
      have hskip : refinementErrors ((d :: ds).map Definition.key) (.refinement kind target b) =
          refinementErrors (ds.map Definition.key) (.refinement kind target b) := by
        simp only [refinementErrors, List.map_cons, List.find?_cons, hne, decide_false]
      rw [hskip, refineTarget, if_neg h]
      exact ih

theorem snd_addAll_addRefinement (declarations : List Declaration) (ds : List Definition) :
    (addAll addRefinement ds declarations).2 =
      declarations.flatMap (refinementErrors (ds.map Definition.key)) := by
  induction declarations generalizing ds with
  | nil => rfl
  | cons declaration rest ih =>
    rw [snd_addAll_cons, List.flatMap_cons, ih]
    cases declaration with
    | definition key b => rfl
    | refinement kind target b =>
      rw [addRefinement, keys_refineTarget, snd_refineTarget]

theorem filterMap_defined? (blocks : List Block) :
    (blocks.filterMap Declaration.ofBlock?).filterMap Declaration.defined? =
      blocks.filterMap Block.defined? := by
  rw [List.filterMap_filterMap]
  rfl

theorem snd_collect {blocks : List Block} (distinct : (blocks.filterMap Block.defined?).Nodup) :
    (collect blocks).2 =
      (blocks.filterMap Declaration.ofBlock?).flatMap definitionErrors ++
        (blocks.filterMap Declaration.ofBlock?).flatMap
          (refinementErrors ((collect blocks).1.map Definition.key)) := by
  have hcollect : (collect blocks).2 =
      (addAll addDefinition [] (blocks.filterMap Declaration.ofBlock?)).2 ++
        (addAll addRefinement
          (addAll addDefinition [] (blocks.filterMap Declaration.ofBlock?)).1
          (blocks.filterMap Declaration.ofBlock?)).2 := rfl
  have hkeys : (collect blocks).1.map Definition.key =
      (addAll addDefinition [] (blocks.filterMap Declaration.ofBlock?)).1.map Definition.key :=
    keys_addRefinements _ _
  have hdefined : (([] : List Definition).map Definition.key ++
      (blocks.filterMap Declaration.ofBlock?).filterMap Declaration.defined?).Nodup := by
    rwa [filterMap_defined?]
  rw [hcollect, snd_addAll_addDefinition hdefined, snd_addAll_addRefinement, hkeys]

theorem refinementErrors_perm {keys keys' : List EntityKey} (h : keys.Perm keys')
    (nodup : keys.Nodup) : refinementErrors keys = refinementErrors keys' := by
  have hpairs : (keys.map fun key => (key.kind, key.name.text)).Nodup := by
    apply nodup.map
    intro key k heq
    exact eq_key_iff.2 (Prod.mk.injEq .. ▸ heq)
  funext declaration
  cases declaration with
  | definition key b => rfl
  | refinement kind target b =>
    have hfind := Keyed.find?_perm (fun key : EntityKey => (key.kind, key.name.text)) h hpairs
      (kind, target)
    simp only [refinementErrors, hfind]

/-! ## Main statements -/

variable {blocks blocks' : List Block}

theorem collect_rearranged (h : Block.Rearranged blocks blocks')
    (distinct : (blocks.filterMap Block.defined?).Nodup) :
    (collect blocks).1.Perm (collect blocks').1 := by
  have nodup := nodup_keys_collect blocks
  have nodup' := nodup_keys_collect blocks'
  apply (List.perm_ext_iff_of_nodup nodup.of_map nodup'.of_map).2
  intro d
  have hfind : (collect blocks).1.find? (·.key = d.key) =
      (collect blocks').1.find? (·.key = d.key) := by
    rw [find?_collect, find?_collect, h.filter_defines distinct, h.filter_refines]
  have hmem := Keyed.find?_eq_some_iff nodup (k := d.key) (x := d)
  have hmem' := Keyed.find?_eq_some_iff nodup' (k := d.key) (x := d)
  rw [hfind, hmem'] at hmem
  simpa using hmem.symm

theorem snd_collect_rearranged (h : Block.Rearranged blocks blocks')
    (distinct : (blocks.filterMap Block.defined?).Nodup) :
    (collect blocks).2.Perm (collect blocks').2 := by
  have distinct' : (blocks'.filterMap Block.defined?).Nodup :=
    (h.perm.filterMap Block.defined?).nodup_iff.1 distinct
  have hkeys := (collect_rearranged h distinct).map Definition.key
  have hdeclarations := h.perm.filterMap Declaration.ofBlock?
  rw [snd_collect distinct, snd_collect distinct',
    refinementErrors_perm hkeys (nodup_keys_collect blocks)]
  exact (hdeclarations.flatMap_right _).append (hdeclarations.flatMap_right _)

end Definition

end LookML
