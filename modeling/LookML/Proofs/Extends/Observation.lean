import LookML.Proofs.Extends.Inheritance
import LookML.Proofs.Layer.Observation
/-!
# What is observed of merged layers

An observation of a merged layer is composed of those of the bases, one after another, and of the
node's own content. Where nothing is cut, it makes no difference how much room there is.
-/

namespace LookML.Extends

open Layer

variable {nodes : Array Node} {α : Type} {op : α → α → α} {unit : α} {f : Layer → α}

def observedBases (nodes : Array Node) (f : Layer → α) (room : Nat) (above bases : List Nat) :
    List α :=
  bases.filterMap fun b => nodes[b]?.map fun base => f (mergeAfresh nodes room above base b).layer

theorem observedBases_cons {room b : Nat} {above : List Nat} {base : Node}
    (hbase : nodes[b]? = some base) (bases : List Nat) :
    observedBases nodes f room above (b :: bases) =
      f (mergeAfresh nodes room above base b).layer :: observedBases nodes f room above bases := by
  simp [observedBases, hbase]

theorem observedBases_cons_none {room b : Nat} {above : List Nat} (hbase : nodes[b]? = none)
    (bases : List Nat) :
    observedBases nodes f room above (b :: bases) = observedBases nodes f room above bases := by
  simp [observedBases, hbase]

theorem observedBases_congr {nodes' : Array Node} {room room' : Nat} {above above' bases : List Nat}
    (h : ∀ b ∈ bases, (nodes[b]?.map fun base => f (mergeAfresh nodes room above base b).layer) =
      nodes'[b]?.map fun base => f (mergeAfresh nodes' room' above' base b).layer) :
    observedBases nodes f room above bases = observedBases nodes' f room' above' bases :=
  List.filterMap_congr h

section Observe

variable (hf : Observation op unit f)
include hf

theorem observe_mergeAfresh_zero {node : Node} (hown : node.own.Distinct) (above : List Nat)
    (id : Nat) : f (mergeAfresh nodes 0 above node id).layer = op unit (f node.own) := by
  have hlayer : (mergeAfresh nodes 0 above node id).layer = Layer.empty.overlay node.own := rfl
  rw [hlayer, hf.overlay hown, hf.empty]

theorem observe_mergeAfresh_succ {node : Node} (hown : node.own.Distinct) (room : Nat)
    (above : List Nat) (id : Nat) :
    f (mergeAfresh nodes (room + 1) above node id).layer =
      op ((observedBases nodes f room (id :: above) (node.basesOff above)).foldl op unit)
        (f node.own) := by
  have hlayer : (mergeAfresh nodes (room + 1) above node id).layer =
      (mergeOnto nodes node (mergeAfresh nodes room (id :: above)) (node.basesOff above)
        (.start node)).layer.overlay node.own := rfl
  have hstart : (Merged.start node).layer = .empty := rfl
  have hdistinct : ∀ top ∈ (node.basesOff above).filterMap fun b => nodes[b]?.map fun base =>
      (mergeAfresh nodes room (id :: above) base b).layer.bequeath node.name, top.Distinct := by
    intro top htop
    obtain ⟨b, _, hb⟩ := List.mem_filterMap.1 htop
    obtain ⟨base, _, rfl⟩ := Option.map_eq_some_iff.1 hb
    exact (distinct_mergeAfresh nodes room _ base b).bequeath node.name
  rw [hlayer, hf.overlay hown, layer_mergeOnto, hf.foldl_overlay hdistinct, hstart, hf.empty,
    List.map_filterMap]
  simp only [Option.map_map, Function.comp_def, hf.bequeath, observedBases]

/-- Where nothing is cut, the bases are observed as they would be with as much room as the node
itself has. -/
theorem observe_of_not_truncated (hn : Consistent nodes) {room id : Nat} {above : List Nat}
    {node : Node} (hown : node.own.Distinct)
    (huncut : (mergeAfresh nodes room above node id).truncated = false) :
    f (mergeAfresh nodes room above node id).layer =
      op ((observedBases nodes f room (id :: above) (node.basesOff above)).foldl op unit)
        (f node.own) := by
  cases room with
  | zero =>
    have hbases : node.basesOff above = [] := by
      simpa [mergeAfresh, Merged.finish] using huncut
    rw [observe_mergeAfresh_zero hf hown, hbases]
    rfl
  | succ room =>
    have hbelow := (truncated_mergeOnto.1 huncut).2
    rw [observe_mergeAfresh_succ hf hown]
    congr 2
    apply observedBases_congr
    intro b hb
    apply Option.map_congr
    intro base hbase
    have hheight : (mergeAfresh nodes room (id :: above) base b).height ≤ room :=
      height_mergeAfresh_le room (id :: above) base b
    rw [mergeAfresh_room hn hbase (hbelow b hb base hbase) (Nat.le_succ_of_le hheight)]

end Observe

end LookML.Extends
