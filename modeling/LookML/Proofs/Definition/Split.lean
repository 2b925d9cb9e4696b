import LookML.Proofs.Definition.Rearrangement
import LookML.Proofs.Layer.Names
import LookML.Proofs.Split
/-!
# Definitions of blocks that are split in two

If the blocks are split in two parts that use no name in common, so are the definitions that they
make, and each part's complaints are those that it would give rise to alone.
-/

namespace LookML

/-- The name of the view or explore that is defined or refined. -/
def Declaration.name : Declaration → String
  | .definition key _ => key.name.text
  | .refinement _ target _ => target

/-- The name that a top-level block defines or refines, and the names that it uses. -/
def Block.names (b : Block) : List String :=
  ((Declaration.ofBlock? b).map Declaration.name).toList ++ b.allMentions

namespace Definition

/-- Whether a step concerns only definitions of the declaration's name. -/
structure Local
    (step : List Definition → Declaration → List Definition × List ResolutionError) : Prop where
  split : ∀ {ds first second : List Definition} {declaration : Declaration},
    Split ds first second →
    (∀ key ∈ second.map Definition.key, key.name.text ≠ declaration.name) →
    Split (step ds declaration).1 (step first declaration).1 second ∧
      (step ds declaration).2 = (step first declaration).2
  keys : ∀ {ds : List Definition} {declaration : Declaration},
    ∀ key ∈ (step ds declaration).1.map Definition.key,
      key ∈ ds.map Definition.key ∨ key.name.text = declaration.name

theorem split_define {ds first second : List Definition} {key : EntityKey} (b : Block)
    (h : Split ds first second)
    (hkey : ∀ k ∈ second.map Definition.key, k.name.text ≠ key.name.text) :
    Split (define key b ds).1 (define key b first).1 second ∧
      (define key b ds).2 = (define key b first).2 := by
  induction h with
  | nil => exact ⟨.first _ .nil, rfl⟩
  | first d hrest ih =>
    by_cases hd : d.key = key
    · simp only [define, if_pos hd]
      exact ⟨.first _ hrest, trivial⟩
    · simp only [define, if_neg hd]
      exact ⟨.first d (ih hkey).1, (ih hkey).2⟩
  | second d _ ih =>
    rw [List.map_cons, List.forall_mem_cons] at hkey
    have hd : d.key ≠ key := fun heq => hkey.1 (heq ▸ rfl)
    obtain ⟨hsplit, herrors⟩ := ih hkey.2
    rw [define, if_neg hd]
    exact ⟨.second d hsplit, herrors⟩

theorem split_refineTarget {ds first second : List Definition} {kind : EntityKind}
    {target : String} (b : Block) (h : Split ds first second)
    (hkey : ∀ k ∈ second.map Definition.key, k.name.text ≠ target) :
    Split (refineTarget kind target b ds).1 (refineTarget kind target b first).1 second ∧
      (refineTarget kind target b ds).2 = (refineTarget kind target b first).2 := by
  induction h with
  | nil => exact ⟨.nil, rfl⟩
  | first d hrest ih =>
    by_cases hd : d.key.kind = kind ∧ d.key.name.text = target
    · simp only [refineTarget, if_pos hd]
      exact ⟨.first _ hrest, trivial⟩
    · simp only [refineTarget, if_neg hd]
      exact ⟨.first d (ih hkey).1, (ih hkey).2⟩
  | second d _ ih =>
    rw [List.map_cons, List.forall_mem_cons] at hkey
    have hd : ¬ (d.key.kind = kind ∧ d.key.name.text = target) := fun hd => hkey.1 hd.2
    obtain ⟨hsplit, herrors⟩ := ih hkey.2
    rw [refineTarget, if_neg hd]
    exact ⟨.second d hsplit, herrors⟩

theorem local_addDefinition : Local addDefinition where
  split := by
    rintro ds first second (⟨key, b⟩ | ⟨kind, target, b⟩) h hkey
    · exact split_define b h hkey
    · exact ⟨h, rfl⟩
  keys := by
    rintro ds (⟨key, b⟩ | ⟨kind, target, b⟩) k hk
    · rw [addDefinition, define_eq_put, Keyed.map_put key_addConflict] at hk
      split at hk
      · exact Or.inl hk
      · rcases List.mem_append.1 hk with hk | hk
        · exact Or.inl hk
        · exact Or.inr (by rw [List.mem_singleton.1 hk]; rfl)
    · exact Or.inl hk

theorem local_addRefinement : Local addRefinement where
  split := by
    rintro ds first second (⟨key, b⟩ | ⟨kind, target, b⟩) h hkey
    · exact ⟨h, rfl⟩
    · exact split_refineTarget b h hkey
  keys := by
    rintro ds (⟨key, b⟩ | ⟨kind, target, b⟩) k hk
    · exact Or.inl hk
    · rw [addRefinement, keys_refineTarget] at hk
      exact Or.inl hk

variable {mine : String → Prop}
  {step : List Definition → Declaration → List Definition × List ResolutionError}

theorem Local.keys_step (hstep : Local step) {P : EntityKey → Prop} {declaration : Declaration}
    (hname : ∀ key : EntityKey, key.name.text = declaration.name → P key) {ds : List Definition}
    (hds : ∀ key ∈ ds.map Definition.key, P key) :
    ∀ key ∈ (step ds declaration).1.map Definition.key, P key := by
  intro key hkey
  rcases hstep.keys key hkey with hold | hnew
  · exact hds key hold
  · exact hname key hnew

theorem Local.keys_addAll (hstep : Local step) {P : EntityKey → Prop}
    {declarations : List Declaration}
    (hnames : ∀ d ∈ declarations, ∀ key : EntityKey, key.name.text = d.name → P key)
    {ds : List Definition} (hds : ∀ key ∈ ds.map Definition.key, P key) :
    ∀ key ∈ (addAll step ds declarations).1.map Definition.key, P key := by
  induction declarations generalizing ds with
  | nil => exact hds
  | cons declaration rest ih =>
    rw [List.forall_mem_cons] at hnames
    exact ih hnames.2 (hstep.keys_step hnames.1 hds)

/-- The definitions that a run of steps makes stay split, as each step concerns one part only. -/
theorem Local.split_addAll (hstep : Local step) {declarations first second : List Declaration}
    (h : Split declarations first second) (hfirst : ∀ d ∈ first, mine d.name)
    (hsecond : ∀ d ∈ second, ¬ mine d.name) {ds ds₁ ds₂ : List Definition}
    (hds : Split ds ds₁ ds₂) (hkeys₁ : ∀ key ∈ ds₁.map Definition.key, mine key.name.text)
    (hkeys₂ : ∀ key ∈ ds₂.map Definition.key, ¬ mine key.name.text) :
    Split (addAll step ds declarations).1 (addAll step ds₁ first).1 (addAll step ds₂ second).1 ∧
      (addAll step ds declarations).2.Perm
        ((addAll step ds₁ first).2 ++ (addAll step ds₂ second).2) := by
  induction h generalizing ds ds₁ ds₂ with
  | nil => exact ⟨hds, .refl _⟩
  | first declaration _ ih =>
    rw [List.forall_mem_cons] at hfirst
    have hother : ∀ key ∈ ds₂.map Definition.key, key.name.text ≠ declaration.name :=
      fun key hkey heq => hkeys₂ key hkey (heq ▸ hfirst.1)
    obtain ⟨hsplit, herrors⟩ := hstep.split hds hother
    have hkeys : ∀ key ∈ (step _ declaration).1.map Definition.key, mine key.name.text :=
      hstep.keys_step (fun key heq => heq ▸ hfirst.1) hkeys₁
    obtain ⟨hrest, hmore⟩ := ih hfirst.2 hsecond hsplit hkeys hkeys₂
    refine ⟨hrest, ?_⟩
    rw [snd_addAll_cons, snd_addAll_cons, herrors, List.append_assoc]
    exact hmore.append_left _
  | second declaration _ ih =>
    rw [List.forall_mem_cons] at hsecond
    have hother : ∀ key ∈ ds₁.map Definition.key, key.name.text ≠ declaration.name :=
      fun key hkey heq => hsecond.1 (heq ▸ hkeys₁ key hkey)
    obtain ⟨hsplit, herrors⟩ := hstep.split hds.swap hother
    have hkeys : ∀ key ∈ (step _ declaration).1.map Definition.key, ¬ mine key.name.text :=
      hstep.keys_step (fun key heq => heq ▸ hsecond.1) hkeys₂
    obtain ⟨hrest, hmore⟩ := ih hfirst hsecond.2 hsplit.swap hkeys₁ hkeys
    refine ⟨hrest, ?_⟩
    rw [snd_addAll_cons, snd_addAll_cons, herrors]
    exact (hmore.append_left _).trans (List.perm_append_comm_assoc _ _ _)

/-! ## Main statements -/

section Collect

variable {blocks first second : List Block}

theorem name_mem_of_declaration {b : Block} {declaration : Declaration}
    (h : Declaration.ofBlock? b = some declaration) : declaration.name ∈ b.names := by
  simp [Block.names, h]

theorem forall_declarations {P : String → Prop} (h : ∀ b ∈ blocks, ∀ name ∈ b.names, P name) :
    ∀ d ∈ blocks.filterMap Declaration.ofBlock?, P d.name := by
  intro d hd
  obtain ⟨b, hb, hdeclaration⟩ := List.mem_filterMap.1 hd
  exact h b hb d.name (name_mem_of_declaration hdeclaration)

theorem split_collect (h : Split blocks first second)
    (hfirst : ∀ b ∈ first, ∀ name ∈ b.names, mine name)
    (hsecond : ∀ b ∈ second, ∀ name ∈ b.names, ¬ mine name) :
    Split (collect blocks).1 (collect first).1 (collect second).1 ∧
      (collect blocks).2.Perm ((collect first).2 ++ (collect second).2) := by
  have hdeclarations := h.filterMap Declaration.ofBlock?
  have hmine := forall_declarations hfirst
  have hother := forall_declarations hsecond
  obtain ⟨hdefined, hproblems⟩ := local_addDefinition.split_addAll hdeclarations hmine hother
    .nil (by simp) (by simp)
  have hkeys₁ : ∀ key ∈ (addAll addDefinition []
      (first.filterMap Declaration.ofBlock?)).1.map Definition.key, mine key.name.text :=
    local_addDefinition.keys_addAll (fun d hd key heq => heq ▸ hmine d hd) (by simp)
  have hkeys₂ : ∀ key ∈ (addAll addDefinition []
      (second.filterMap Declaration.ofBlock?)).1.map Definition.key, ¬ mine key.name.text :=
    local_addDefinition.keys_addAll (fun d hd key heq => heq ▸ hother d hd) (by simp)
  obtain ⟨hrefined, hothers⟩ := local_addRefinement.split_addAll hdeclarations hmine hother
    hdefined hkeys₁ hkeys₂
  exact ⟨hrefined, append_perm_append hproblems hothers⟩

theorem name_mem_of_defines {key : EntityKey} {b : Block} (h : b.defines key = true) :
    key.name.text ∈ b.names := by
  unfold Block.defines at h
  split at h
  · rename_i k b' hdeclaration
    rw [decide_eq_true_eq] at h
    subst h
    exact name_mem_of_declaration hdeclaration
  · cases h

theorem within_of_mem_collect (h : ∀ b ∈ blocks, ∀ name ∈ b.names, mine name) {d : Definition}
    (hd : d ∈ (collect blocks).1) : mine d.key.name.text ∧ d.layer.Within mine := by
  obtain ⟨b, hfind, heq⟩ := exists_layer_eq hd
  have hb := List.mem_of_find?_eq_some hfind
  have hlayer : ∀ b ∈ blocks, (Layer.ofBlock d.key.name b).1.Within mine := by
    intro b hb
    apply Layer.within_ofBlock
    exact fun name hname => h b hb name (List.mem_append_right _ hname)
  refine ⟨h b hb _ (name_mem_of_defines (List.find?_some hfind)), ?_⟩
  rw [heq]
  apply Layer.within_foldl_overlay _ (hlayer b hb)
  rw [List.forall_mem_map]
  exact fun r hr => hlayer r (List.mem_filter.1 hr).1

end Collect

end Definition

end LookML
