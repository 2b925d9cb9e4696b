import LookML.Definition
import LookML.Proofs.Keyed
/-!
# What definitions are made of

Under each key the collected definitions hold one definition at most: the first block that defines
the key, with all blocks that refine it put on it in input order, wherever these stand.
-/

namespace LookML

namespace Block

/-- Whether the block is a definition of the view or explore of the given key. -/
def defines (key : EntityKey) (b : Block) : Bool :=
  match Declaration.ofBlock? b with
  | some (.definition k _) => k = key
  | _ => false

/-- Whether the block is a refinement of the view or explore of the given key. -/
def refines (key : EntityKey) (b : Block) : Bool :=
  match Declaration.ofBlock? b with
  | some (.refinement kind target _) => kind = key.kind && target = key.name.text
  | _ => false

end Block

theorem Declaration.block_of_definition {b b' : Block} {key : EntityKey}
    (h : Declaration.ofBlock? b = some (.definition key b')) : b' = b := by
  unfold Declaration.ofBlock? at h
  split at h
  · cases h
  · obtain ⟨name, _, heq⟩ := Option.map_eq_some_iff.1 h
    cases heq
    rfl
  · cases h

theorem Declaration.block_of_refinement {b b' : Block} {kind : EntityKind} {target : String}
    (h : Declaration.ofBlock? b = some (.refinement kind target b')) : b' = b := by
  unfold Declaration.ofBlock? at h
  split at h
  · cases h
    rfl
  · obtain ⟨name, _, heq⟩ := Option.map_eq_some_iff.1 h
    cases heq
  · cases h

namespace Definition

def assemble (key : EntityKey) (b : Block) (refinements conflicts : List Block) : Definition where
  key := key
  location := b.location
  layer := refinements.foldl (fun l r => l.overlay (Layer.ofBlock key.name r).1)
    (Layer.ofBlock key.name b).1
  refinements := refinements.map Block.location
  conflicts := conflicts.map Block.location

/-! ## Definitions -/

def addConflict (d other : Definition) : Definition :=
  { d with conflicts := d.conflicts ++ [other.location] }

theorem key_addConflict (d other : Definition) (h : d.key = other.key) :
    (addConflict d other).key = other.key := h

theorem define_eq_put (key : EntityKey) (b : Block) (ds : List Definition) :
    (define key b ds).1 = Keyed.put Definition.key addConflict (ofBlock key b).1 ds := by
  induction ds with
  | nil => rfl
  | cons d ds ih =>
    by_cases h : d.key = key
    · have h' : d.key = (ofBlock key b).1.key := h
      simp only [define, Keyed.put, if_pos h, if_pos h']
      rfl
    · have h' : ¬ d.key = (ofBlock key b).1.key := h
      simp only [define, Keyed.put, if_neg h, if_neg h', ih]

theorem find?_define (key k : EntityKey) (b : Block) (ds : List Definition) :
    (define key b ds).1.find? (·.key = k) =
      if key = k then
        some ((ds.find? (·.key = k)).elim (ofBlock key b).1 (addConflict · (ofBlock key b).1))
      else ds.find? (·.key = k) := by
  rw [define_eq_put, Keyed.find?_put key_addConflict]
  rfl

theorem addAll_cons (step : List Definition → Declaration → List Definition × List ResolutionError)
    (ds : List Definition) (d : Declaration) (rest : List Declaration) :
    (addAll step ds (d :: rest)).1 = (addAll step (step ds d).1 rest).1 := rfl

def withDefinitions (key : EntityKey) (found : Option Definition) (blocks : List Block) :
    Option Definition :=
  match found, blocks.filter (Block.defines key) with
  | some d, bs => some { d with conflicts := d.conflicts ++ bs.map Block.location }
  | none, b :: bs => some { (ofBlock key b).1 with conflicts := bs.map Block.location }
  | none, [] => none

theorem find?_addDefinitions (key : EntityKey) (blocks : List Block) (ds : List Definition) :
    (addAll addDefinition ds (blocks.filterMap Declaration.ofBlock?)).1.find? (·.key = key) =
      withDefinitions key (ds.find? (·.key = key)) blocks := by
  induction blocks generalizing ds with
  | nil => cases h : ds.find? (·.key = key) <;> simp [addAll, withDefinitions, h]
  | cons b blocks ih =>
    cases hb : Declaration.ofBlock? b with
    | none =>
      have hskip : b.defines key = false := by simp [Block.defines, hb]
      rw [List.filterMap_cons_none hb, ih]
      simp [withDefinitions, hskip]
    | some declaration =>
      rw [List.filterMap_cons_some hb, addAll_cons, ih]
      cases declaration with
      | refinement kind target b' =>
        have hskip : b.defines key = false := by simp [Block.defines, hb]
        simp [withDefinitions, hskip, addDefinition]
      | definition k b' =>
        obtain rfl := Declaration.block_of_definition hb
        simp only [addDefinition, find?_define]
        by_cases hk : k = key
        · have hdefines : b'.defines key = true := by simp [Block.defines, hb, hk]
          subst hk
          cases h : ds.find? (·.key = k) <;> simp [withDefinitions, hdefines, ofBlock, addConflict]
        · have hskip : b'.defines key = false := by simp [Block.defines, hb, hk]
          simp [withDefinitions, hskip, hk]

theorem nodup_keys_define (key : EntityKey) (b : Block) {ds : List Definition}
    (h : (ds.map Definition.key).Nodup) : ((define key b ds).1.map Definition.key).Nodup := by
  rw [define_eq_put]
  exact Keyed.nodup_put key_addConflict h

theorem nodup_keys_addDefinitions (declarations : List Declaration) {ds : List Definition}
    (h : (ds.map Definition.key).Nodup) :
    ((addAll addDefinition ds declarations).1.map Definition.key).Nodup := by
  induction declarations generalizing ds with
  | nil => exact h
  | cons declaration rest ih =>
    rw [addAll_cons]
    cases declaration with
    | definition key b => exact ih (nodup_keys_define key b h)
    | refinement kind target b => exact ih h

/-! ## Refinements -/

theorem keys_refineTarget (kind : EntityKind) (target : String) (b : Block)
    (ds : List Definition) :
    (refineTarget kind target b ds).1.map Definition.key = ds.map Definition.key := by
  induction ds with
  | nil => rfl
  | cons d ds ih =>
    by_cases h : d.key.kind = kind ∧ d.key.name.text = target
    · simp [refineTarget, h, refine]
    · simp [refineTarget, h, ih]

theorem keys_addRefinements (declarations : List Declaration) (ds : List Definition) :
    (addAll addRefinement ds declarations).1.map Definition.key = ds.map Definition.key := by
  induction declarations generalizing ds with
  | nil => rfl
  | cons declaration rest ih =>
    rw [addAll_cons, ih]
    cases declaration with
    | definition key b => rfl
    | refinement kind target b => exact keys_refineTarget kind target b ds

theorem eq_key_iff {key k : EntityKey} :
    key = k ↔ key.kind = k.kind ∧ key.name.text = k.name.text := by
  constructor
  · rintro rfl
    exact ⟨rfl, rfl⟩
  · rintro ⟨hkind, hname⟩
    obtain ⟨kind, ⟨text, hne⟩⟩ := key
    obtain ⟨kind', ⟨text', hne'⟩⟩ := k
    simp only at hkind hname
    subst hkind hname
    rfl

theorem find?_refineTarget (kind : EntityKind) (target : String) (b : Block) (key : EntityKey)
    (ds : List Definition) :
    (refineTarget kind target b ds).1.find? (·.key = key) =
      if kind = key.kind ∧ target = key.name.text then
        (ds.find? (·.key = key)).map fun d => (d.refine b).1
      else ds.find? (·.key = key) := by
  induction ds with
  | nil => simp [refineTarget]
  | cons d ds ih =>
    by_cases h : d.key.kind = kind ∧ d.key.name.text = target
    · obtain ⟨rfl, rfl⟩ := h
      by_cases hk : d.key = key
      · subst hk
        simp [refineTarget, refine]
      · have hne := fun h => hk (eq_key_iff.2 h)
        rw [if_neg hne]
        simp [refineTarget, refine, hk]
    · by_cases hk : d.key = key
      · subst hk
        have hne : ¬ (kind = d.key.kind ∧ target = d.key.name.text) :=
          fun ⟨hkind, htarget⟩ => h ⟨hkind.symm, htarget.symm⟩
        simp [refineTarget, h, hne]
      · simpa [refineTarget, h, hk] using ih

theorem find?_addRefinements (key : EntityKey) (blocks : List Block) (ds : List Definition) :
    (addAll addRefinement ds (blocks.filterMap Declaration.ofBlock?)).1.find? (·.key = key) =
      (ds.find? (·.key = key)).map fun d =>
        (blocks.filter (Block.refines key)).foldl (fun d b => (d.refine b).1) d := by
  induction blocks generalizing ds with
  | nil => simp [addAll]
  | cons b blocks ih =>
    cases hb : Declaration.ofBlock? b with
    | none =>
      have hskip : b.refines key = false := by simp [Block.refines, hb]
      rw [List.filterMap_cons_none hb, ih]
      simp [hskip]
    | some declaration =>
      rw [List.filterMap_cons_some hb, addAll_cons, ih]
      cases declaration with
      | definition k b' =>
        have hskip : b.refines key = false := by simp [Block.refines, hb]
        simp [hskip, addRefinement]
      | refinement kind target b' =>
        obtain rfl := Declaration.block_of_refinement hb
        simp only [addRefinement, find?_refineTarget]
        by_cases hk : kind = key.kind ∧ target = key.name.text
        · have hrefines : b'.refines key = true := by simp [Block.refines, hb, hk]
          rw [if_pos hk, Option.map_map, List.filter_cons_of_pos hrefines]
          rfl
        · have hskip : ¬ b'.refines key = true := by
            simpa [Block.refines, hb] using hk
          rw [if_neg hk, List.filter_cons_of_neg hskip]

theorem foldl_refine (d : Definition) (bs : List Block) :
    bs.foldl (fun d b => (d.refine b).1) d =
      { d with
        layer := bs.foldl (fun l b => l.overlay (Layer.ofBlock d.key.name b).1) d.layer
        refinements := d.refinements ++ bs.map Block.location } := by
  induction bs generalizing d with
  | nil => simp
  | cons b bs ih =>
    rw [List.foldl_cons, ih]
    simp [refine]

/-! ## Main statements -/

theorem nodup_keys_collect (blocks : List Block) :
    ((collect blocks).1.map Definition.key).Nodup := by
  have hkeys := keys_addRefinements (blocks.filterMap Declaration.ofBlock?)
    (addAll addDefinition [] (blocks.filterMap Declaration.ofBlock?)).1
  have hcollect : (collect blocks).1 = (addAll addRefinement
      (addAll addDefinition [] (blocks.filterMap Declaration.ofBlock?)).1
      (blocks.filterMap Declaration.ofBlock?)).1 := rfl
  rw [hcollect, hkeys]
  exact nodup_keys_addDefinitions _ List.nodup_nil

theorem find?_collect (blocks : List Block) (key : EntityKey) :
    (collect blocks).1.find? (·.key = key) =
      match blocks.filter (Block.defines key) with
      | [] => none
      | b :: bs => some (assemble key b (blocks.filter (Block.refines key)) bs) := by
  have hcollect : (collect blocks).1 = (addAll addRefinement
      (addAll addDefinition [] (blocks.filterMap Declaration.ofBlock?)).1
      (blocks.filterMap Declaration.ofBlock?)).1 := rfl
  rw [hcollect, find?_addRefinements, find?_addDefinitions, List.find?_nil]
  cases h : blocks.filter (Block.defines key) with
  | nil => simp [withDefinitions, h]
  | cons b bs => simp [withDefinitions, h, foldl_refine, assemble, ofBlock]

theorem eq_assemble {blocks : List Block} {d : Definition} (hd : d ∈ (collect blocks).1) :
    ∃ b bs, blocks.filter (Block.defines d.key) = b :: bs ∧
      d = assemble d.key b (blocks.filter (Block.refines d.key)) bs := by
  have hfound := (Keyed.find?_eq_some_iff (nodup_keys_collect blocks)).2 ⟨hd, rfl⟩
  rw [find?_collect] at hfound
  split at hfound
  · cases hfound
  · rename_i b bs hfilter
    exact ⟨b, bs, hfilter, (Option.some.inj hfound).symm⟩

theorem exists_layer_eq {blocks : List Block} {d : Definition} (hd : d ∈ (collect blocks).1) :
    ∃ b, blocks.find? (Block.defines d.key) = some b ∧
      d.layer = ((blocks.filter (Block.refines d.key)).map fun r =>
        (Layer.ofBlock d.key.name r).1).foldl Layer.overlay (Layer.ofBlock d.key.name b).1 := by
  obtain ⟨b, bs, hfilter, heq⟩ := eq_assemble hd
  refine ⟨b, ?_, ?_⟩
  · rw [← List.head?_filter, hfilter]
    rfl
  · rw [List.foldl_map]
    exact congrArg layer heq

end Definition

end LookML
