import LookML.Proofs.Definition.Linking
import LookML.Proofs.Extends.Embedding
import LookML.Proofs.Extends.Memo
import LookML.Proofs.Keyed
/-!
# Definitions with their bases merged

What is merged for a definition depends only on the definitions that it leads to: on neither their
places in the list nor the rest of it.
-/

namespace LookML.Definition

open Extends Relation

def mergedAt [ComponentFinder] (ds : List Definition) (id : Nat) (d : Definition) : Merged :=
  mergeAfresh (nodes ds) maxExtendsDepth [] (d.toNode ds (graph ds) id) id

theorem mergeAll_nodes [ComponentFinder] (ds : List Definition) :
    mergeAll (nodes ds) = ds.mapIdx (mergedAt ds) := by
  rw [mergeAll_eq (consistent_nodes ds), size_nodes, List.mapIdx_eq_zipIdx_map,
    zipIdx_eq_filterMap_range, List.map_filterMap]
  simp only [getElem?_nodes, Option.map_map]
  rfl

theorem mergeBases_eq [ComponentFinder] (ds : List Definition) :
    mergeBases ds = ds.mapIdx fun id d => (d, mergedAt ds id d) := by
  rw [mergeBases_eq_zip, mergeAll_nodes]
  apply List.ext_getElem
  · simp
  · intro i _ _
    simp

/-! ## Places -/

def placeOf (ds : List Definition) (d : Definition) : Nat :=
  (indexOf? ds d.key).getD 0

def mergedIn [ComponentFinder] (ds : List Definition) (d : Definition) : Merged :=
  mergedAt ds (placeOf ds d) d

section Places

variable {ds : List Definition} (nodup : (ds.map Definition.key).Nodup)
include nodup

theorem indexOf?_eq_some_iff {key : EntityKey} {id : Nat} :
    indexOf? ds key = some id ↔ ∃ d, ds[id]? = some d ∧ d.key = key := by
  constructor
  · exact key_of_indexOf?
  · rintro ⟨d, hd, rfl⟩
    obtain ⟨hlt, rfl⟩ := List.getElem?_eq_some_iff.1 hd
    apply List.findIdx?_eq_some_iff_getElem.2
    refine ⟨hlt, by simp, ?_⟩
    intro j hj hkey
    have hjlt : j < (ds.map Definition.key).length := by
      rw [List.length_map]
      exact Nat.lt_trans hj hlt
    have hidlt : id < (ds.map Definition.key).length := by
      rwa [List.length_map]
    have hsame : (ds.map Definition.key)[j] = (ds.map Definition.key)[id] := by
      simpa using hkey
    exact absurd ((List.Nodup.getElem_inj_iff nodup).1 hsame) (Nat.ne_of_lt hj)

theorem placeOf_eq {d : Definition} {id : Nat} (hd : ds[id]? = some d) : placeOf ds d = id := by
  rw [placeOf, (indexOf?_eq_some_iff nodup).2 ⟨d, hd, rfl⟩, Option.getD_some]

theorem getElem?_placeOf {d : Definition} (hd : d ∈ ds) : ds[placeOf ds d]? = some d := by
  obtain ⟨id, hid⟩ := List.mem_iff_getElem?.1 hd
  rw [placeOf_eq nodup hid, hid]

theorem mergeBases_eq_map [ComponentFinder] : mergeBases ds = ds.map fun d =>
    (d, mergedIn ds d) := by
  rw [mergeBases_eq]
  apply List.ext_getElem
  · simp
  · intro i hi hi'
    have hplace := placeOf_eq nodup (List.getElem?_eq_getElem (by simpa using hi'))
    simp [mergedIn, hplace]

end Places

/-! ## Parts -/

/-- The definitions `ds` are some of `ds'`, and a base that is linked there is one of them. -/
structure Part (ds ds' : List Definition) : Prop where
  nodup : (ds.map Definition.key).Nodup
  nodup_whole : (ds'.map Definition.key).Nodup
  subset : ∀ d ∈ ds, d ∈ ds'
  base_mem : ∀ d ∈ ds, ∀ base ∈ d.layer.bases, ∀ b ∈ ds', b.key = ⟨d.key.kind, base⟩ → b ∈ ds

def placeIn (ds ds' : List Definition) (id : Nat) : Nat :=
  (ds[id]?.map (placeOf ds')).getD 0

theorem placeIn_eq {ds ds' : List Definition} {d : Definition} {id : Nat} (hd : ds[id]? = some d) :
    placeIn ds ds' id = placeOf ds' d := by
  rw [placeIn, hd, Option.map_some, Option.getD_some]

namespace Part

variable {ds ds' : List Definition}

theorem of_perm (h : ds.Perm ds') (nodup : (ds.map Definition.key).Nodup) : Part ds ds' where
  nodup := nodup
  nodup_whole := (h.map Definition.key).nodup_iff.1 nodup
  subset := fun _ hd => h.mem_iff.1 hd
  base_mem := fun _ _ _ _ _ hb _ => h.mem_iff.2 hb

theorem getElem?_placeIn (h : Part ds ds') {d : Definition} {id : Nat} (hd : ds[id]? = some d) :
    ds'[placeIn ds ds' id]? = some d := by
  rw [placeIn_eq hd]
  exact getElem?_placeOf h.nodup_whole (h.subset d (List.mem_of_getElem? hd))

theorem placeIn_injective (h : Part ds ds') {v w : Nat} (hv : v < ds.length) (hw : w < ds.length)
    (heq : placeIn ds ds' v = placeIn ds ds' w) : v = w := by
  have hdv := h.getElem?_placeIn (List.getElem?_eq_getElem hv)
  have hdw := h.getElem?_placeIn (List.getElem?_eq_getElem hw)
  rw [heq, hdw] at hdv
  have hv' := placeOf_eq h.nodup (List.getElem?_eq_getElem hv)
  have hw' := placeOf_eq h.nodup (List.getElem?_eq_getElem hw)
  rw [← hv', ← hw', Option.some.inj hdv]

theorem indexOf?_base (h : Part ds ds') {d : Definition} (hd : d ∈ ds) {base : EntityName}
    (hbase : base ∈ d.layer.bases) :
    indexOf? ds' ⟨d.key.kind, base⟩ =
      (indexOf? ds ⟨d.key.kind, base⟩).map (placeIn ds ds') := by
  cases hindex : indexOf? ds ⟨d.key.kind, base⟩ with
  | some id =>
    obtain ⟨b, hb, hkey⟩ := key_of_indexOf? hindex
    rw [Option.map_some]
    exact (indexOf?_eq_some_iff h.nodup_whole).2 ⟨b, h.getElem?_placeIn hb, hkey⟩
  | none =>
    rw [Option.map_none]
    apply Option.eq_none_iff_forall_ne_some.2
    intro id hid
    -- A base that is linked in the whole would be linked in the part.
    obtain ⟨b, hb, hkey⟩ := key_of_indexOf? hid
    have hmem := h.base_mem d hd base hbase b (List.mem_of_getElem? hb) hkey
    have hfound := (indexOf?_eq_some_iff h.nodup).2 ⟨b, getElem?_placeOf h.nodup hmem, hkey⟩
    rw [hindex] at hfound
    cases hfound

theorem linkedIds_eq (h : Part ds ds') {d : Definition} (hd : d ∈ ds) :
    linkedIds ds' d = (linkedIds ds d).map (placeIn ds ds') := by
  unfold linkedIds
  rw [List.map_filterMap]
  apply List.filterMap_congr
  intro base hbase
  exact h.indexOf?_base hd hbase

theorem missingBases_eq (h : Part ds ds') {d : Definition} (hd : d ∈ ds) :
    missingBases ds' d = missingBases ds d := by
  apply List.filter_congr
  intro base hbase
  rw [h.indexOf?_base hd hbase, Option.isNone_map]

theorem missingBaseErrors_eq (h : Part ds ds') {d : Definition} (hd : d ∈ ds) :
    missingBaseErrors ds' d = missingBaseErrors ds d := by
  unfold missingBaseErrors
  rw [h.missingBases_eq hd]

/-! ## Cycles -/

theorem edge_placeIn (h : Part ds ds') {v w : Nat} (hedge : (graph ds).Edge v w) :
    (graph ds').Edge (placeIn ds ds' v) (placeIn ds ds' w) := by
  unfold Graph.Edge at *
  rcases Nat.lt_or_ge v ds.length with hv | hv
  · have hd := List.getElem?_eq_getElem hv
    rw [basesOf_graph hd] at hedge
    rw [basesOf_graph (h.getElem?_placeIn hd), h.linkedIds_eq (List.getElem_mem hv)]
    exact List.mem_map_of_mem hedge
  · rw [Graph.basesOf_of_size_le (by rwa [size_graph])] at hedge
    cases hedge

theorem exists_edge_of_placeIn (h : Part ds ds') {v w' : Nat} (hv : v < ds.length)
    (hedge : (graph ds').Edge (placeIn ds ds' v) w') :
    ∃ w < ds.length, (graph ds).Edge v w ∧ placeIn ds ds' w = w' := by
  unfold Graph.Edge at *
  have hd := List.getElem?_eq_getElem hv
  rw [basesOf_graph (h.getElem?_placeIn hd), h.linkedIds_eq (List.getElem_mem hv)] at hedge
  obtain ⟨w, hw, rfl⟩ := List.mem_map.1 hedge
  obtain ⟨base, _, hindex⟩ := List.mem_filterMap.1 hw
  exact ⟨w, lt_length_of_indexOf? hindex, by rwa [basesOf_graph hd], rfl⟩

theorem exists_chain_of_placeIn (h : Part ds ds') {v w' : Nat} (hv : v < ds.length)
    (hchain : TransGen (graph ds').Edge (placeIn ds ds' v) w') :
    ∃ w < ds.length, TransGen (graph ds).Edge v w ∧ placeIn ds ds' w = w' := by
  induction hchain with
  | single hedge =>
    obtain ⟨w, hw, hvw, rfl⟩ := h.exists_edge_of_placeIn hv hedge
    exact ⟨w, hw, .single hvw, rfl⟩
  | tail _ hedge ih =>
    obtain ⟨b, hb, hvb, rfl⟩ := ih
    obtain ⟨w, hw, hbw, rfl⟩ := h.exists_edge_of_placeIn hb hedge
    exact ⟨w, hw, .tail hvb hbw, rfl⟩

theorem isCyclic_eq [ComponentFinder] (h : Part ds ds') {id : Nat} (hid : id < ds.length) :
    (graph ds').isCyclic (placeIn ds ds' id) = (graph ds).isCyclic id := by
  rw [Bool.eq_iff_iff, Graph.isCyclic_iff, Graph.isCyclic_iff]
  constructor
  · intro hcycle
    obtain ⟨w, hw, hchain, heq⟩ := h.exists_chain_of_placeIn hid hcycle
    rwa [h.placeIn_injective hw hid heq] at hchain
  · exact fun hcycle => hcycle.lift (placeIn ds ds') fun _ _ => h.edge_placeIn

/-! ## Main statement -/

theorem toNode_eq [ComponentFinder] (h : Part ds ds') {d : Definition} {id : Nat}
    (hd : ds[id]? = some d) :
    d.toNode ds' (graph ds') (placeIn ds ds' id) =
      (d.toNode ds (graph ds) id).renumber (placeIn ds ds') := by
  obtain ⟨hlt, _⟩ := List.getElem?_eq_some_iff.1 hd
  have hmem := List.mem_of_getElem? hd
  simp only [toNode, Node.renumber, basesOf_graph hd, basesOf_graph (h.getElem?_placeIn hd),
    h.linkedIds_eq hmem, h.missingBases_eq hmem, h.isCyclic_eq hlt]

theorem embeds [ComponentFinder] (h : Part ds ds') : Embeds (placeIn ds ds') (nodes ds)
    (nodes ds') where
  node := by
    intro id node hid
    rw [getElem?_nodes, Option.map_eq_some_iff] at hid
    obtain ⟨d, hd, rfl⟩ := hid
    rw [getElem?_nodes_of_getElem? (h.getElem?_placeIn hd), h.toNode_eq hd]
  injective := by
    intro v w hv hw
    rw [size_nodes] at hv hw
    exact h.placeIn_injective hv hw

theorem mergedIn_eq [ComponentFinder] (h : Part ds ds') {d : Definition} (hd : d ∈ ds) :
    mergedIn ds' d = mergedIn ds d := by
  have hplace := getElem?_placeOf h.nodup hd
  have hplace' : placeOf ds' d = placeIn ds ds' (placeOf ds d) := (placeIn_eq hplace).symm
  unfold mergedIn mergedAt
  rw [hplace', h.toNode_eq hplace]
  have hway : ∀ a ∈ ([] : List Nat), a < (nodes ds).size := by simp
  exact h.embeds.mergeAfresh_renumber (consistent_nodes ds) (getElem?_nodes_of_getElem? hplace) hway

end Part

end LookML.Definition
