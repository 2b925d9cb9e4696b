import LookML.Proofs.Definition.Fates
import LookML.Proofs.Layer.Block
/-!
# Collecting block by block

The definitions that are collected, their refinements and the complaints made on the way are read
off the fates of the blocks, in input order.
-/

namespace LookML

/-- The fates of the blocks of `rest`, which follow `before` among `blocks`. Blocks that meet none
are left out. -/
inductive Fates (blocks : List Block) : (before rest : List Block) → List (Block × Fate) → Prop
  | nil {before : List Block} : Fates blocks before [] []
  | other {before rest : List Block} {b : Block} {fates : List (Block × Fate)} :
      (∀ fate, ¬ b.Meets blocks before fate) → Fates blocks (before ++ [b]) rest fates →
      Fates blocks before (b :: rest) fates
  | meets {before rest : List Block} {b : Block} {fate : Fate} {fates : List (Block × Fate)} :
      b.Meets blocks before fate → Fates blocks (before ++ [b]) rest fates →
      Fates blocks before (b :: rest) ((b, fate) :: fates)

theorem Fates.exists (blocks before rest : List Block) : ∃ fates, Fates blocks before rest fates := by
  induction rest generalizing before with
  | nil => exact ⟨[], .nil⟩
  | cons b rest ih =>
    obtain ⟨fates, hfates⟩ := ih (before ++ [b])
    by_cases h : ∃ fate, b.Meets blocks before fate
    · obtain ⟨fate, hfate⟩ := h
      exact ⟨_, .meets hfate hfates⟩
    · exact ⟨_, .other (fun fate hfate => h ⟨fate, hfate⟩) hfates⟩

namespace Fate

/-- The key and the place of a definition that is kept. -/
def kept? : Block × Fate → Option (EntityKey × Location)
  | (b, .kept key) => some (key, b.location)
  | _ => none

/-- The complaint about a repetition. -/
def duplicate? : Block × Fate → Option ResolutionError
  | (b, .repeated key first) => some (.duplicateEntity key b.location first.location)
  | _ => none

/-- The place of a refinement of the view or explore of the given key. -/
def refinement? (key : EntityKey) : Block × Fate → Option Location
  | (b, .refines k) => if k = key then some b.location else none
  | _ => none

/-- The complaint about a refinement of something that is never defined. -/
def undefined? : Block × Fate → Option ResolutionError
  | (b, .dangling kind target) =>
    some (.unresolved s!"{kind.word}:+{target}" (.undefinedTarget kind target) b.location)
  | _ => none

end Fate

/-- Whether the error is that a block is left out: it is a repetition, or refines nothing. -/
def ResolutionError.isAboutBlock : ResolutionError → Bool
  | .duplicateEntity .. | .unresolved _ (.undefinedTarget ..) _ => true
  | _ => false

theorem Layer.filter_isAboutBlock_ofBlock (owner : EntityName) (b : Block) :
    (ofBlock owner b).2.filter (·.isAboutBlock) = [] := by
  apply List.filter_eq_nil_iff.2
  intro error herror
  obtain ⟨_, _, _, _, _, _, rfl⟩ := exists_of_mem_ofBlock herror
  simp [ResolutionError.isAboutBlock]

namespace Definition

variable {blocks before rest : List Block} {fates : List (Block × Fate)} {ds : List Definition}
  {b : Block} {key : EntityKey} {kind : EntityKind} {target : String}

def head (d : Definition) : EntityKey × Location :=
  (d.key, d.location)

/-! ## Definitions -/

theorem map_head_define (key : EntityKey) (b : Block) (ds : List Definition) :
    (define key b ds).1.map head =
      if (ds.find? (·.key = key)).isSome then ds.map head
      else ds.map head ++ [(key, b.location)] := by
  induction ds with
  | nil => rfl
  | cons d ds ih =>
    by_cases h : d.key = key
    · simp [define, h, head]
    · have hfind : (d :: ds).find? (·.key = key) = ds.find? (·.key = key) :=
        List.find?_cons_of_neg (by simpa using h)
      rw [hfind]
      simp only [define, if_neg h, List.map_cons, ih]
      split <;> rfl

theorem filter_isAboutBlock_define (key : EntityKey) (b : Block) (ds : List Definition) :
    (define key b ds).2.filter (·.isAboutBlock) =
      ((ds.find? (·.key = key)).map fun d =>
        .duplicateEntity key b.location d.location).toList := by
  induction ds with
  | nil => exact Layer.filter_isAboutBlock_ofBlock key.name b
  | cons d ds ih =>
    by_cases h : d.key = key
    · simp [define, h, ResolutionError.isAboutBlock]
    · simpa [define, h] using ih

def Follows (before : List Block) (ds : List Definition) : Prop :=
  ∀ key, (ds.find? (·.key = key)).map location =
    (before.find? (Block.defines key)).map Block.location

theorem Follows.define (h : Follows before ds) (hdefines : b.IsDefinitionOf key) :
    Follows (before ++ [b]) (define key b ds).1 := by
  intro k
  rw [find?_define, List.find?_append, Option.map_or, ← h k]
  by_cases hk : key = k
  · subst hk
    cases ds.find? (·.key = key) <;> simp [Block.defines_iff.2 hdefines, ofBlock, addConflict]
  · have hnot : b.defines k = false := by
      rw [Bool.eq_false_iff]
      exact fun hdefines' => hk (hdefines.unique (Block.defines_iff.1 hdefines'))
    simp [hk, hnot]

theorem Follows.other (h : Follows before ds) (hdefines : ∀ key, ¬ b.IsDefinitionOf key) :
    Follows (before ++ [b]) ds := by
  intro k
  have hnot : b.defines k = false := by
    rw [Bool.eq_false_iff]
    exact fun hdefines' => hdefines k (Block.defines_iff.1 hdefines')
  rw [h k, List.find?_append]
  simp [hnot]

theorem addDefinitions_cons_of_isDefinitionOf (ds : List Definition) (blocks : List Block)
    (h : b.IsDefinitionOf key) :
    addAll addDefinition ds ((b :: blocks).filterMap Declaration.ofBlock?) =
      let rest := addAll addDefinition (define key b ds).1 (blocks.filterMap Declaration.ofBlock?)
      (rest.1, (define key b ds).2 ++ rest.2) := by
  rw [List.filterMap_cons_some (Declaration.ofBlock?_of_isDefinitionOf h)]
  rfl

theorem addDefinitions_cons_of_isRefinementOf (ds : List Definition) (blocks : List Block)
    (h : b.IsRefinementOf kind target) :
    addAll addDefinition ds ((b :: blocks).filterMap Declaration.ofBlock?) =
      addAll addDefinition ds (blocks.filterMap Declaration.ofBlock?) := by
  rw [List.filterMap_cons_some (Declaration.ofBlock?_of_isRefinementOf h)]
  rfl

/-- The first blocks of their keys are kept, in order, and all later ones are complained about. -/
theorem addDefinitions_of_fates (hfates : Fates blocks before rest fates) (h : Follows before ds) :
    (addAll addDefinition ds (rest.filterMap Declaration.ofBlock?)).1.map head =
        ds.map head ++ fates.filterMap Fate.kept? ∧
      (addAll addDefinition ds (rest.filterMap Declaration.ofBlock?)).2.filter (·.isAboutBlock) =
        fates.filterMap Fate.duplicate? := by
  induction hfates generalizing ds with
  | nil => exact ⟨(List.append_nil _).symm, rfl⟩
  | @other before rest b fates hnone _ ih =>
    rw [List.filterMap_cons_none (Block.ofBlock?_eq_none hnone)]
    exact ih (h.other fun key hdefines =>
      (Block.exists_meets_of_isDefinitionOf hdefines).elim hnone)
  | @meets before rest b fate fates hmeets _ ih =>
    cases hmeets with
    | @kept key hdefines hbefore =>
      obtain ⟨hkept, herrors⟩ := ih (h.define hdefines)
      have hfind := h key
      rw [Block.find?_defines_eq_none_iff.2 hbefore, Option.map_none, Option.map_eq_none_iff]
        at hfind
      rw [addDefinitions_cons_of_isDefinitionOf ds rest hdefines, List.filter_append, hkept,
        herrors, map_head_define, filter_isAboutBlock_define, hfind]
      exact ⟨List.append_assoc _ _ _, rfl⟩
    | @repeated key first earlier later hdefines heq hfirst hnone =>
      obtain ⟨hkept, herrors⟩ := ih (h.define hdefines)
      have hfind := h key
      rw [Block.find?_defines_eq_some_iff.2 ⟨hfirst, _, _, heq, hnone⟩, Option.map_some,
        Option.map_eq_some_iff] at hfind
      obtain ⟨d, hfind, hlocation⟩ := hfind
      rw [addDefinitions_cons_of_isDefinitionOf ds rest hdefines, List.filter_append, hkept,
        herrors, map_head_define, filter_isAboutBlock_define, hfind, Option.map_some, hlocation]
      exact ⟨rfl, rfl⟩
    | refines hrefines _ | dangling hrefines _ =>
      rw [addDefinitions_cons_of_isRefinementOf ds rest hrefines]
      exact ih (h.other fun key hdefines => hdefines.not_isRefinementOf hrefines)

/-! ## Refinements -/

theorem map_head_refineTarget (kind : EntityKind) (target : String) (b : Block)
    (ds : List Definition) : (refineTarget kind target b ds).1.map head = ds.map head := by
  induction ds with
  | nil => rfl
  | cons d ds ih =>
    by_cases h : d.key.kind = kind ∧ d.key.name.text = target
    · simp [refineTarget, h, refine, head]
    · simp [refineTarget, h, ih]

theorem map_head_addRefinements (declarations : List Declaration) (ds : List Definition) :
    (addAll addRefinement ds declarations).1.map head = ds.map head := by
  induction declarations generalizing ds with
  | nil => rfl
  | cons declaration declarations ih =>
    rw [addAll_cons, ih]
    cases declaration with
    | definition key b => rfl
    | refinement kind target b => exact map_head_refineTarget kind target b ds

theorem filter_isAboutBlock_refineTarget_of_mem
    (h : ∃ d ∈ ds, d.key.kind = kind ∧ d.key.name.text = target) :
    (refineTarget kind target b ds).2.filter (·.isAboutBlock) = [] := by
  induction ds with
  | nil =>
    obtain ⟨_, hd, _⟩ := h
    cases hd
  | cons d ds ih =>
    by_cases hd : d.key.kind = kind ∧ d.key.name.text = target
    · simpa [refineTarget, hd, refine] using Layer.filter_isAboutBlock_ofBlock d.key.name b
    · obtain ⟨d', hd', htarget⟩ := h
      rcases List.mem_cons.1 hd' with rfl | hd'
      · exact absurd htarget hd
      · simpa [refineTarget, hd] using ih ⟨d', hd', htarget⟩

theorem errors_refineTarget_of_not_mem
    (h : ∀ d ∈ ds, ¬ (d.key.kind = kind ∧ d.key.name.text = target)) :
    (refineTarget kind target b ds).2 =
      [.unresolved s!"{kind.word}:+{target}" (.undefinedTarget kind target) b.location] := by
  induction ds with
  | nil => rfl
  | cons d ds ih =>
    have hrest := ih fun d' hd' => h d' (List.mem_cons_of_mem d hd')
    simpa [refineTarget, h d List.mem_cons_self] using hrest

theorem addRefinements_cons_of_isDefinitionOf (ds : List Definition) (blocks : List Block)
    (h : b.IsDefinitionOf key) :
    addAll addRefinement ds ((b :: blocks).filterMap Declaration.ofBlock?) =
      addAll addRefinement ds (blocks.filterMap Declaration.ofBlock?) := by
  rw [List.filterMap_cons_some (Declaration.ofBlock?_of_isDefinitionOf h)]
  rfl

theorem addRefinements_cons_of_isRefinementOf (ds : List Definition) (blocks : List Block)
    (h : b.IsRefinementOf kind target) :
    addAll addRefinement ds ((b :: blocks).filterMap Declaration.ofBlock?) =
      let rest := addAll addRefinement (refineTarget kind target b ds).1
        (blocks.filterMap Declaration.ofBlock?)
      (rest.1, (refineTarget kind target b ds).2 ++ rest.2) := by
  rw [List.filterMap_cons_some (Declaration.ofBlock?_of_isRefinementOf h)]
  rfl

theorem addRefinements_of_fates (hfates : Fates blocks before rest fates)
    (h : ∀ key, key ∈ ds.map Definition.key ↔ ∃ c ∈ blocks, c.IsDefinitionOf key) :
    (addAll addRefinement ds (rest.filterMap Declaration.ofBlock?)).2.filter (·.isAboutBlock) =
      fates.filterMap Fate.undefined? := by
  induction hfates generalizing ds with
  | nil => rfl
  | other hnone _ ih =>
    rw [List.filterMap_cons_none (Block.ofBlock?_eq_none hnone)]
    exact ih h
  | @meets before rest b fate fates hmeets _ ih =>
    -- A refinement changes what a definition says, but not which definitions there are.
    have hkeys : ∀ kind target key, key ∈ (refineTarget kind target b ds).1.map Definition.key ↔
        ∃ c ∈ blocks, c.IsDefinitionOf key := by
      intro kind target key
      rw [keys_refineTarget, h key]
    cases hmeets with
    | kept hdefines _ | repeated hdefines _ _ _ =>
      rw [addRefinements_cons_of_isDefinitionOf ds rest hdefines]
      exact ih h
    | @refines key hrefines hdefined =>
      obtain ⟨d, hd, rfl⟩ := List.mem_map.1 ((h key).2 hdefined)
      rw [addRefinements_cons_of_isRefinementOf ds rest hrefines, List.filter_append,
        filter_isAboutBlock_refineTarget_of_mem ⟨d, hd, rfl, rfl⟩, ih (hkeys _ _)]
      rfl
    | @dangling kind target hrefines hnone =>
      have hmissing : ∀ d ∈ ds, ¬ (d.key.kind = kind ∧ d.key.name.text = target) := by
        rintro d hd ⟨hkind, htarget⟩
        obtain ⟨c, hc, hdefines⟩ := (h d.key).1 (List.mem_map_of_mem hd)
        exact hnone d.key hkind htarget c hc hdefines
      rw [addRefinements_cons_of_isRefinementOf ds rest hrefines, List.filter_append,
        errors_refineTarget_of_not_mem hmissing, ih (hkeys _ _)]
      rfl

theorem locations_of_fates (hfates : Fates blocks before rest fates)
    (hdefined : ∃ c ∈ blocks, c.IsDefinitionOf key) :
    (rest.filter (Block.refines key)).map Block.location =
      fates.filterMap (Fate.refinement? key) := by
  induction hfates with
  | nil => rfl
  | @other before rest b fates hnone _ ih =>
    have hnot : ¬ b.refines key = true := fun hrefines =>
      (Block.exists_meets_of_isRefinementOf (Block.refines_iff.1 hrefines)).elim hnone
    rw [List.filter_cons_of_neg hnot, ih]
  | @meets before rest b fate fates hmeets _ ih =>
    cases hmeets with
    | kept hdefines _ | repeated hdefines _ _ _ =>
      have hnot : ¬ b.refines key = true := fun hrefines =>
        hdefines.not_isRefinementOf (Block.refines_iff.1 hrefines)
      rw [List.filter_cons_of_neg hnot, ih]
      rfl
    | @refines k hrefines _ =>
      by_cases hk : k = key
      · subst hk
        rw [List.filter_cons_of_pos (Block.refines_iff.2 hrefines), List.map_cons, ih]
        simp [Fate.refinement?]
      · have hnot : ¬ b.refines key = true := fun hrefines' =>
          hk (eq_key_iff.2 (hrefines.unique (Block.refines_iff.1 hrefines')))
        rw [List.filter_cons_of_neg hnot, ih]
        simp [Fate.refinement?, hk]
    | @dangling kind target hrefines hnone =>
      have hnot : ¬ b.refines key = true := by
        intro hrefines'
        obtain ⟨hkind, htarget⟩ := hrefines.unique (Block.refines_iff.1 hrefines')
        obtain ⟨c, hc, hdefines⟩ := hdefined
        exact hnone key hkind.symm htarget.symm c hc hdefines
      rw [List.filter_cons_of_neg hnot, ih]
      rfl

/-! ## Main statement -/

theorem collect_of_fates (hfates : Fates blocks [] blocks fates) :
    (collect blocks).1.map head = fates.filterMap Fate.kept? ∧
      (collect blocks).2.filter (·.isAboutBlock) =
        fates.filterMap Fate.duplicate? ++ fates.filterMap Fate.undefined? ∧
      ∀ d ∈ (collect blocks).1, d.refinements = fates.filterMap (Fate.refinement? d.key) := by
  have hfollows : Follows [] [] := fun _ => rfl
  obtain ⟨hkept, hduplicates⟩ := addDefinitions_of_fates hfates hfollows
  have hkeys : ∀ key, key ∈ (addAll addDefinition []
      (blocks.filterMap Declaration.ofBlock?)).1.map Definition.key ↔
        ∃ c ∈ blocks, c.IsDefinitionOf key := by
    intro key
    rw [← mem_keys_collect_iff, ← keys_addRefinements (blocks.filterMap Declaration.ofBlock?)]
    rfl
  have hundefined := addRefinements_of_fates hfates hkeys
  refine ⟨(map_head_addRefinements _ _).trans hkept, ?_, ?_⟩
  · rw [← hduplicates, ← hundefined, ← List.filter_append]
    rfl
  · intro d hd
    obtain ⟨b, bs, _, heq⟩ := eq_assemble hd
    rw [← locations_of_fates hfates ((mem_keys_collect_iff blocks d.key).1 (List.mem_map_of_mem hd))]
    exact congrArg refinements heq

end Definition

end LookML
