import LookML.Project
import LookML.Proofs.Layer.Locations
/-!
# Where definitions stand

Definitions are collected block by block. Wherever the blocks stand, the definitions and their
content stand too, and whatever is complained about on the way or about their bases is reported
there.
-/

namespace LookML.Definition

variable {P : Location → Prop}

/-- The definition and its content stand at places that satisfy `P`. -/
structure Located (P : Location → Prop) (d : Definition) : Prop where
  location : P d.location
  layer : d.layer.Located P

/-- The definitions stand at such places, and the complaints are reported there. -/
structure AllLocated (P : Location → Prop) (r : List Definition × List ResolutionError) : Prop where
  definitions : ∀ d ∈ r.1, d.Located P
  errors : ∀ e ∈ r.2, e.Located P

/-! ## Collecting -/

theorem located_define (key : EntityKey) {b : Block} (hb : b.Located P) {ds : List Definition}
    (hds : ∀ d ∈ ds, d.Located P) : AllLocated P (define key b ds) := by
  have hlocation := (Block.located_iff.1 hb).1
  induction ds with
  | nil =>
    obtain ⟨hlayer, herrors⟩ := Layer.located_ofBlock key.name hb
    exact ⟨List.forall_mem_singleton.2 ⟨hlocation, hlayer⟩, herrors⟩
  | cons d ds ih =>
    rw [List.forall_mem_cons] at hds
    rw [define]
    split
    · refine ⟨List.forall_mem_cons.2 ⟨⟨hds.1.location, hds.1.layer⟩, hds.2⟩, ?_⟩
      rw [List.forall_mem_singleton]
      refine ⟨hlocation, ?_⟩
      rintro _ ⟨⟩
      exact hds.1.location
    · obtain ⟨hrest, herrors⟩ := ih hds.2
      exact ⟨List.forall_mem_cons.2 ⟨hds.1, hrest⟩, herrors⟩

theorem located_refineTarget (kind : EntityKind) (target : String) {b : Block} (hb : b.Located P)
    {ds : List Definition} (hds : ∀ d ∈ ds, d.Located P) :
    AllLocated P (refineTarget kind target b ds) := by
  induction ds with
  | nil =>
    have herror : ∀ e ∈ (refineTarget kind target b []).2, e.Located P := by
      refine List.forall_mem_singleton.2 ⟨(Block.located_iff.1 hb).1, ?_⟩
      exact nofun
    exact ⟨List.forall_mem_nil _, herror⟩
  | cons d ds ih =>
    rw [List.forall_mem_cons] at hds
    rw [refineTarget]
    split
    · obtain ⟨hlayer, herrors⟩ := Layer.located_ofBlock d.key.name hb
      refine ⟨List.forall_mem_cons.2 ⟨⟨hds.1.location, hds.1.layer.overlay hlayer⟩, hds.2⟩, herrors⟩
    · obtain ⟨hrest, herrors⟩ := ih hds.2
      exact ⟨List.forall_mem_cons.2 ⟨hds.1, hrest⟩, herrors⟩

def DeclarationLocated (P : Location → Prop) : Declaration → Prop
  | .definition _ b | .refinement _ _ b => b.Located P

theorem located_addDefinition {declaration : Declaration}
    (h : DeclarationLocated P declaration) {ds : List Definition} (hds : ∀ d ∈ ds, d.Located P) :
    AllLocated P (addDefinition ds declaration) := by
  cases declaration with
  | definition key b => exact located_define key h hds
  | refinement kind target b => exact ⟨hds, nofun⟩

theorem located_addRefinement {declaration : Declaration}
    (h : DeclarationLocated P declaration) {ds : List Definition} (hds : ∀ d ∈ ds, d.Located P) :
    AllLocated P (addRefinement ds declaration) := by
  cases declaration with
  | definition key b => exact ⟨hds, nofun⟩
  | refinement kind target b => exact located_refineTarget kind target h hds

theorem located_addAll
    {step : List Definition → Declaration → List Definition × List ResolutionError}
    (hstep : ∀ {declaration : Declaration}, DeclarationLocated P declaration →
      ∀ {ds : List Definition}, (∀ d ∈ ds, d.Located P) → AllLocated P (step ds declaration))
    {declarations : List Declaration}
    (hdeclarations : ∀ declaration ∈ declarations, DeclarationLocated P declaration)
    {ds : List Definition} (hds : ∀ d ∈ ds, d.Located P) :
    AllLocated P (addAll step ds declarations) := by
  induction declarations generalizing ds with
  | nil => exact ⟨hds, nofun⟩
  | cons declaration rest ih =>
    rw [List.forall_mem_cons] at hdeclarations
    obtain ⟨hnext, hproblems⟩ := hstep hdeclarations.1 hds
    obtain ⟨hlast, hothers⟩ := ih hdeclarations.2 hnext
    exact ⟨hlast, List.forall_mem_append.2 ⟨hproblems, hothers⟩⟩

theorem located_ofBlock? {b : Block} (hb : b.Located P) {declaration : Declaration}
    (h : Declaration.ofBlock? b = some declaration) : DeclarationLocated P declaration := by
  unfold Declaration.ofBlock? at h
  split at h
  · cases h
    exact hb
  · obtain ⟨_, _, rfl⟩ := Option.map_eq_some_iff.1 h
    exact hb
  · cases h

theorem located_collect {blocks : List Block} (h : ∀ b ∈ blocks, b.Located P) :
    AllLocated P (collect blocks) := by
  have hdeclarations : ∀ declaration ∈ blocks.filterMap Declaration.ofBlock?,
      DeclarationLocated P declaration := by
    intro declaration hmem
    obtain ⟨b, hb, hdeclares⟩ := List.mem_filterMap.1 hmem
    exact located_ofBlock? (h b hb) hdeclares
  have hnone : ∀ d ∈ ([] : List Definition), d.Located P := by simp
  obtain ⟨hdefined, hproblems⟩ := located_addAll located_addDefinition hdeclarations hnone
  obtain ⟨hrefined, hothers⟩ := located_addAll located_addRefinement hdeclarations hdefined
  exact ⟨hrefined, List.forall_mem_append.2 ⟨hproblems, hothers⟩⟩

/-! ## Complaints about bases -/

variable {ds : List Definition}

theorem located_missingBaseErrors {d : Definition} (hd : d.Located P) :
    ∀ e ∈ missingBaseErrors ds d, e.Located P := by
  have hlocation : P ((d.layer.extends?.map Property.location).getD d.location) := by
    cases hextends : d.layer.extends? with
    | none => exact hd.location
    | some p =>
      have hmem : p ∈ d.layer.properties := List.mem_reverse.1 (List.mem_of_find?_eq_some hextends)
      exact hd.layer.properties p hmem
  intro e he
  obtain ⟨base, _, rfl⟩ := List.mem_map.1 he
  exact ⟨hlocation, nofun⟩

theorem located_cycleErrors [Extends.ComponentFinder] (h : ∀ d ∈ ds, d.Located P) :
    ∀ e ∈ cycleErrors ds, e.Located P := by
  intro e he
  obtain ⟨members, _, hcycle⟩ := List.mem_filterMap.1 he
  obtain ⟨start, _, hcycle⟩ := Option.bind_eq_some_iff.1 hcycle
  obtain ⟨d, hd, hcycle⟩ := Option.bind_eq_some_iff.1 hcycle
  cases hcycle
  exact ⟨(h d (List.mem_of_getElem? hd)).location, nofun⟩

theorem located_tooDeepError? {d : Definition} (hd : d.Located P) (m : Extends.Merged) :
    ∀ e ∈ d.tooDeepError? m, e.Located P := by
  intro e he
  unfold tooDeepError? at he
  split at he
  · cases he
    exact ⟨hd.location, nofun⟩
  · cases he

end LookML.Definition
