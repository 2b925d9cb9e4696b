import LookML.Proofs.Definition.Merging
import LookML.Proofs.Definition.Split
import LookML.Proofs.Extends.CycleEmbedding
import Mathlib.Data.List.NodupEquivFin
/-!
# Definitions that have nothing to do with one another

Definitions may be of two kinds by their names: some have a name of the one kind and use no others,
the rest have a name of the other kind and use none of the first. Then no definition leads to one
of the other kind, and the cycles are those that each kind has by itself.
-/

namespace LookML.Definition

open Extends Relation

/-- Those among `ds` that are in `first` have names in `mine` and use no others, those that are in
`second` have other names and use none in `mine`. -/
structure Separate (mine : String → Prop) (ds first second : List Definition) : Prop where
  split : Split ds first second
  nodup : (ds.map key).Nodup
  name_first : ∀ d ∈ first, mine d.key.name.text
  within_first : ∀ d ∈ first, d.layer.Within mine
  name_second : ∀ d ∈ second, ¬ mine d.key.name.text
  within_second : ∀ d ∈ second, d.layer.Within (¬ mine ·)

namespace Separate

variable {mine : String → Prop} {ds first second : List Definition}

theorem swap (h : Separate mine ds first second) : Separate (¬ mine ·) ds second first where
  split := h.split.swap
  nodup := h.nodup
  name_first := h.name_second
  within_first := h.within_second
  name_second := fun d hd => not_not_intro (h.name_first d hd)
  within_second := fun d hd => (h.within_first d hd).mono fun _ => not_not_intro

theorem nodup_first (h : Separate mine ds first second) : (first.map key).Nodup :=
  h.nodup.sublist (h.split.sublist.map key)

theorem part (h : Separate mine ds first second) : Part first ds where
  nodup := h.nodup_first
  nodup_whole := h.nodup
  subset := fun _ => h.split.sublist.mem
  base_mem := by
    intro d hd base hbase b hb hkey
    rcases h.split.mem_iff.1 hb with hfirst | hsecond
    · exact hfirst
    · have hmine : mine base.text := (h.within_first d hd).mem_bases hbase
      have hother : ¬ mine base.text := by simpa [hkey] using h.name_second b hsecond
      exact absurd hmine hother

theorem placeIn_lt (h : Separate mine ds first second) {v w : Nat} (hvw : v < w)
    (hw : w < first.length) : placeIn first ds v < placeIn first ds w := by
  obtain ⟨f, hf⟩ := List.sublist_iff_exists_orderEmbedding_getElem?_eq.1 h.split.sublist
  have hplace : ∀ i < first.length, placeIn first ds i = f i := by
    intro i hi
    have hd := List.getElem?_eq_getElem hi
    rw [placeIn_eq hd]
    exact placeOf_eq h.nodup ((hf i).symm.trans hd)
  rw [hplace v (Nat.lt_trans hvw hw), hplace w hw]
  exact f.lt_iff_lt.2 hvw

/-! ## Cycles -/

theorem embeds (h : Separate mine ds first second) :
    Graph.Embeds (placeIn first ds) (graph first) (graph ds) where
  lt_size := by
    intro v hv
    rw [size_graph] at hv ⊢
    have hplace := h.part.getElem?_placeIn (List.getElem?_eq_getElem hv)
    exact (List.getElem?_eq_some_iff.1 hplace).1
  mono := by
    intro v w hvw hw
    rw [size_graph] at hw
    exact h.placeIn_lt hvw hw
  basesOf := by
    intro v hv
    rw [size_graph] at hv
    have hd := List.getElem?_eq_getElem hv
    rw [basesOf_graph hd, basesOf_graph (h.part.getElem?_placeIn hd),
      h.part.linkedIds_eq (List.mem_of_getElem? hd)]

theorem cycleError?_map [ComponentFinder] (h : Separate mine ds first second) {members : List Nat}
    (hmembers : members ∈ (graph first).orderedCycles) :
    cycleError? ds (members.map (placeIn first ds)) = cycleError? first members := by
  obtain ⟨start, hhead, rfl, hstart, hcycle⟩ := Graph.exists_first_of_mem_orderedCycles hmembers
  have hsize : ∀ w ∈ (graph first).component start, w < (graph first).size :=
    fun w hw => (Graph.mem_component_iff.1 hw).1
  have hget : ∀ v < (graph first).size, ds[placeIn first ds v]? = first[v]? := by
    intro v hv
    rw [size_graph] at hv
    rw [List.getElem?_eq_getElem hv]
    exact h.part.getElem?_placeIn (List.getElem?_eq_getElem hv)
  have hpath : (((graph first).cyclePath ((graph first).component start) start).map
      (placeIn first ds)).filterMap (fun v => ds[v]?.map key) =
        ((graph first).cyclePath ((graph first).component start) start).filterMap
          fun v => first[v]?.map key := by
    rw [List.filterMap_map]
    apply List.filterMap_congr
    intro v hv
    have hmember := Graph.mem_component_of_mem_cyclePath hstart hcycle hv
    exact congrArg (Option.map key) (hget v (hsize v hmember))
  unfold cycleError?
  rw [List.head?_map, hhead]
  simp only [Option.map_some, Option.bind_eq_bind, Option.bind_some, hget start hstart,
    h.embeds.cyclePath_map hsize hstart, hpath]

theorem mem_cycleErrors_of_first [ComponentFinder] (h : Separate mine ds first second)
    {error : ResolutionError} (herror : error ∈ cycleErrors first) : error ∈ cycleErrors ds := by
  obtain ⟨members, hmembers, heq⟩ := mem_cycleErrors_iff.1 herror
  refine mem_cycleErrors_iff.2 ⟨members.map (placeIn first ds), ?_, ?_⟩
  · exact h.embeds.map_mem_orderedCycles hmembers
  · rw [h.cycleError?_map hmembers, heq]

theorem mem_cycleErrors_first [ComponentFinder] (h : Separate mine ds first second)
    {members : List Nat} (hmembers : members ∈ (graph ds).orderedCycles) {start : Nat}
    (hstart : members.head? = some start) {d : Definition} (hd : ds[start]? = some d)
    (hfirst : d ∈ first) {error : ResolutionError} (herror : cycleError? ds members = some error) :
    error ∈ cycleErrors first := by
  obtain ⟨v, hv⟩ := List.mem_iff_getElem?.1 hfirst
  have hplace : placeIn first ds v = start := by
    rw [placeIn_eq hv]
    exact placeOf_eq h.nodup hd
  have hsize : v < (graph first).size := by
    rw [size_graph]
    exact (List.getElem?_eq_some_iff.1 hv).1
  have hmem : placeIn first ds v ∈ members := hplace ▸ List.mem_of_mem_head? hstart
  obtain ⟨own, hown, rfl⟩ := h.embeds.exists_of_mem_orderedCycles hmembers hsize hmem
  rw [h.cycleError?_map hown] at herror
  exact mem_cycleErrors_iff.2 ⟨own, hown, herror⟩

end Separate

/-! ## Main statement -/

theorem exists_start_of_cycleError? {ds : List Definition} {members : List Nat}
    {error : ResolutionError} (h : cycleError? ds members = some error) :
    ∃ start d path, members.head? = some start ∧ ds[start]? = some d ∧
      error = .extendsCycle d.key path d.location := by
  simp only [cycleError?, Option.bind_eq_bind, Option.bind_eq_some_iff, Option.pure_def,
    Option.some.injEq] at h
  obtain ⟨start, hstart, d, hd, rfl⟩ := h
  exact ⟨start, d, _, hstart, hd, rfl⟩

theorem nodup_cycleErrors [ComponentFinder] {ds : List Definition} (nodup : (ds.map key).Nodup) :
    (cycleErrors ds).Nodup := by
  rw [cycleErrors_eq_filterMap, List.Nodup, List.pairwise_filterMap]
  apply (Graph.pairwise_disjoint_orderedCycles _).imp
  rintro members members' hdisjoint error herror error' herror' rfl
  obtain ⟨i, d, _, hi, hd, rfl⟩ := exists_start_of_cycleError? herror
  obtain ⟨j, d', _, hj, hd', heq⟩ := exists_start_of_cycleError? herror'
  injection heq with hkey
  have hplace := placeOf_eq nodup hd
  have hplace' := placeOf_eq nodup hd'
  rw [placeOf, hkey, ← placeOf, hplace'] at hplace
  exact hdisjoint (List.mem_of_mem_head? hi) (hplace ▸ List.mem_of_mem_head? hj)

theorem Separate.name_of_mem_cycleErrors [ComponentFinder] {mine : String → Prop}
    {ds first second : List Definition} (h : Separate mine ds first second)
    {error : ResolutionError} (herror : error ∈ cycleErrors first) :
    ∃ start path location, error = .extendsCycle start path location ∧ mine start.name.text := by
  obtain ⟨members, _, heq⟩ := mem_cycleErrors_iff.1 herror
  obtain ⟨_, d, path, _, hd, rfl⟩ := exists_start_of_cycleError? heq
  exact ⟨d.key, path, d.location, rfl, h.name_first d (List.mem_of_getElem? hd)⟩

theorem Separate.cycleErrors_perm_append [ComponentFinder] {mine : String → Prop}
    {ds first second : List Definition} (h : Separate mine ds first second) :
    (cycleErrors ds).Perm (cycleErrors first ++ cycleErrors second) := by
  have hdisjoint : (cycleErrors first).Disjoint (cycleErrors second) := by
    intro error hfirst hsecond
    obtain ⟨start, _, _, rfl, hmine⟩ := h.name_of_mem_cycleErrors hfirst
    obtain ⟨start', _, _, heq, hother⟩ := h.swap.name_of_mem_cycleErrors hsecond
    injection heq with hkey
    exact hother (hkey ▸ hmine)
  have hparts : (cycleErrors first ++ cycleErrors second).Nodup :=
    (nodup_cycleErrors h.nodup_first).append (nodup_cycleErrors h.swap.nodup_first) hdisjoint
  apply (List.perm_ext_iff_of_nodup (nodup_cycleErrors h.nodup) hparts).2
  intro error
  rw [List.mem_append]
  constructor
  · intro herror
    obtain ⟨members, hmembers, heq⟩ := mem_cycleErrors_iff.1 herror
    obtain ⟨start, d, _, hstart, hd, _⟩ := exists_start_of_cycleError? heq
    rcases h.split.mem_iff.1 (List.mem_of_getElem? hd) with hfirst | hsecond
    · exact Or.inl (h.mem_cycleErrors_first hmembers hstart hd hfirst heq)
    · exact Or.inr (h.swap.mem_cycleErrors_first hmembers hstart hd hsecond heq)
  · rintro (hfirst | hsecond)
    · exact h.mem_cycleErrors_of_first hfirst
    · exact h.swap.mem_cycleErrors_of_first hsecond

end LookML.Definition
