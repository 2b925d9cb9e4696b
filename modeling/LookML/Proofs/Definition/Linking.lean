import LookML.Project
import LookML.Proofs.Extends.Afresh
import LookML.Proofs.Extends.CyclePath
/-!
# Definitions as nodes

The walk over the bases meets the definitions as nodes of the graph of their linked bases. Every
base is a node of the graph, and the nodes that are marked cyclic are those that lie on a cycle.
-/

namespace LookML.Definition

open Extends Relation

theorem basesOf_graph {ds : List Definition} {id : Nat} {d : Definition} (hid : ds[id]? = some d) :
    (graph ds).basesOf id = linkedIds ds d := by
  simp [Graph.basesOf, graph, hid, linkedIds]

theorem size_graph (ds : List Definition) : (graph ds).size = ds.length := by
  simp [graph, Graph.size]

theorem key_of_indexOf? {ds : List Definition} {key : EntityKey} {id : Nat}
    (h : indexOf? ds key = some id) : ∃ d, ds[id]? = some d ∧ d.key = key := by
  obtain ⟨hlt, hkey, _⟩ := List.findIdx?_eq_some_iff_getElem.1 h
  exact ⟨ds[id], List.getElem?_eq_getElem hlt, by simpa using hkey⟩

/-! ## Nodes -/

variable [ComponentFinder]

/-- The definitions as the walk over the bases meets them. -/
def nodes (ds : List Definition) : Array Node :=
  (ds.mapIdx fun id d => d.toNode ds (graph ds) id).toArray

@[simp] theorem size_nodes (ds : List Definition) : (nodes ds).size = ds.length := by
  simp [nodes]

theorem mergeBases_eq_zip (ds : List Definition) :
    mergeBases ds = ds.zip (mergeAll (nodes ds)) := rfl

theorem getElem?_nodes (ds : List Definition) (id : Nat) :
    (nodes ds)[id]? = ds[id]?.map fun d => d.toNode ds (graph ds) id := by
  simp [nodes]

theorem getElem?_nodes_of_getElem? {ds : List Definition} {id : Nat} {d : Definition}
    (hid : ds[id]? = some d) : (nodes ds)[id]? = some (d.toNode ds (graph ds) id) := by
  rw [getElem?_nodes, hid, Option.map_some]

theorem link_nodes_iff (ds : List Definition) (v w : Nat) :
    Link (nodes ds) v w ↔ (graph ds).Edge v w := by
  unfold Link Graph.Edge
  simp only [getElem?_nodes, Option.map_eq_some_iff]
  constructor
  · rintro ⟨_, ⟨d, hd, rfl⟩, hw⟩
    exact hw
  · intro hw
    rcases Nat.lt_or_ge v ds.length with hv | hv
    · exact ⟨_, ⟨ds[v], List.getElem?_eq_getElem hv, rfl⟩, hw⟩
    · rw [Graph.basesOf_of_size_le (by rwa [size_graph])] at hw
      cases hw

theorem consistent_nodes (ds : List Definition) : Consistent (nodes ds) where
  base_lt := by
    intro id node b hid hb
    rw [getElem?_nodes, Option.map_eq_some_iff] at hid
    obtain ⟨d, hd, rfl⟩ := hid
    have hbases : b ∈ linkedIds ds d := basesOf_graph hd ▸ hb
    rw [size_nodes]
    exact lt_length_of_mem_linkedIds hbases
  isCyclic_iff := by
    intro id node hid
    rw [getElem?_nodes, Option.map_eq_some_iff] at hid
    obtain ⟨d, hd, rfl⟩ := hid
    have hlink : Link (nodes ds) = (graph ds).Edge := by
      funext v w
      exact propext (link_nodes_iff ds v w)
    rw [hlink]
    exact Graph.isCyclic_iff (graph ds) id

/-! ## Cycles -/

def cycleError? (ds : List Definition) (members : List Nat) : Option ResolutionError := do
  let start ← members.head?
  let d ← ds[start]?
  let path := ((graph ds).cyclePath members start).filterMap fun v => ds[v]?.map Definition.key
  return .extendsCycle d.key path d.location

theorem cycleErrors_eq_filterMap (ds : List Definition) :
    cycleErrors ds = (graph ds).orderedCycles.filterMap (cycleError? ds) := by
  rw [cycleErrors, Graph.orderedCycles, List.filterMap_map]
  apply List.filterMap_congr
  intro members hmembers
  obtain ⟨hlisted, v, hv, _⟩ := Graph.mem_cycles_iff.1 hmembers
  have hperm := (ComponentFinder.correct (graph ds)).perm_component hlisted hv
  have hmem := fun w => hperm.mem_iff (a := w)
  obtain ⟨first, hfirst⟩ : ∃ first, ((graph ds).component v).head? = some first :=
    Option.isSome_iff_exists.1 (List.isSome_head?.2 (List.ne_nil_of_mem ((hmem v).1 hv)))
  have hmin : members.min? = some first := by
    refine List.min?_eq_some_iff.2 ⟨(hmem first).2 (List.mem_of_mem_head? hfirst), ?_⟩
    exact fun w hw => Graph.le_of_head?_component hfirst ((hmem w).1 hw)
  simp only [Function.comp_apply, Graph.filter_mem_eq_component hlisted hv, cycleError?, hmin,
    hfirst, Option.bind_eq_bind, Option.bind_some, Graph.cyclePath_congr hperm]

theorem mem_cycleErrors_iff {ds : List Definition} {error : ResolutionError} :
    error ∈ cycleErrors ds ↔
      ∃ members ∈ (graph ds).orderedCycles, cycleError? ds members = some error := by
  rw [cycleErrors_eq_filterMap, List.mem_filterMap]

end LookML.Definition
