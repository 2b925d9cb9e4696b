import LookML.Proofs.Extends.Afresh
/-!
# Nodes under other numbers

A graph of nodes may be a part of another one in which they have other numbers. As long as the
part has all its bases, what is merged for a node is the same in both.
-/

namespace LookML.Extends

def Node.renumber (σ : Nat → Nat) (node : Node) : Node :=
  { node with bases := node.bases.map σ }

/-- Every node of `nodes` is one of `nodes'`, under the number that `σ` gives it. -/
structure Embeds (σ : Nat → Nat) (nodes nodes' : Array Node) : Prop where
  node : ∀ {id : Nat} {node : Node}, nodes[id]? = some node →
    nodes'[σ id]? = some (node.renumber σ)
  injective : ∀ {v w : Nat}, v < nodes.size → w < nodes.size → σ v = σ w → v = w

namespace Embeds

variable {σ : Nat → Nat} {nodes nodes' : Array Node}

theorem mem_map_iff (h : Embeds σ nodes nodes') {above : List Nat} {b : Nat}
    (habove : ∀ a ∈ above, a < nodes.size) (hb : b < nodes.size) :
    σ b ∈ above.map σ ↔ b ∈ above := by
  constructor
  · intro hmem
    obtain ⟨a, ha, heq⟩ := List.mem_map.1 hmem
    exact h.injective (habove a ha) hb heq ▸ ha
  · exact List.mem_map_of_mem

theorem basesOff_renumber (h : Embeds σ nodes nodes') (hn : Consistent nodes) {id : Nat}
    {node : Node} {above : List Nat} (hid : nodes[id]? = some node)
    (habove : ∀ a ∈ above, a < nodes.size) :
    (node.renumber σ).basesOff (above.map σ) = (node.basesOff above).map σ := by
  unfold Node.basesOff Node.renumber
  rw [List.filter_map]
  congr 1
  apply List.filter_congr
  intro b hb
  simp only [Function.comp_apply, h.mem_map_iff habove (hn.base_lt hid hb)]

theorem mergeOnto_renumber (h : Embeds σ nodes nodes') {node : Node}
    {below below' : Node → Nat → Merged} {bases : List Nat}
    (hbases : ∀ b ∈ bases, ∃ base, nodes[b]? = some base ∧
      below' (base.renumber σ) (σ b) = below base b) (m : Merged) :
    mergeOnto nodes' (node.renumber σ) below' (bases.map σ) m =
      mergeOnto nodes node below bases m := by
  induction bases generalizing m with
  | nil => rfl
  | cons b bases ih =>
    obtain ⟨base, hbase, hbelow⟩ := hbases b List.mem_cons_self
    have hrest := fun c hc => hbases c (List.mem_cons_of_mem b hc)
    have hadd : m.addBase (node.renumber σ) (base.renumber σ) (below base b) =
        m.addBase node base (below base b) := rfl
    rw [List.map_cons, mergeOnto_cons (h.node hbase), mergeOnto_cons hbase, hbelow, hadd,
      ih hrest]

theorem mergeAfresh_renumber (h : Embeds σ nodes nodes') (hn : Consistent nodes)
    {room id : Nat} {node : Node} {above : List Nat} (hid : nodes[id]? = some node)
    (habove : ∀ a ∈ above, a < nodes.size) :
    mergeAfresh nodes' room (above.map σ) (node.renumber σ) (σ id) =
      mergeAfresh nodes room above node id := by
  induction room generalizing above node id with
  | zero =>
    simp only [mergeAfresh, h.basesOff_renumber hn hid habove, List.isEmpty_map]
    rfl
  | succ room ih =>
    obtain ⟨hlt, _⟩ := Array.getElem?_eq_some_iff.1 hid
    have hway : ∀ a ∈ id :: above, a < nodes.size := by
      intro a ha
      rcases List.mem_cons.1 ha with rfl | ha
      · exact hlt
      · exact habove a ha
    have hstart : Merged.start (node.renumber σ) = Merged.start node := rfl
    have hfinish : Merged.finish (node.renumber σ) = Merged.finish node := rfl
    simp only [mergeAfresh, h.basesOff_renumber hn hid habove, hstart, hfinish]
    congr 1
    apply h.mergeOnto_renumber
    intro b hb
    obtain ⟨base, hbase⟩ := hn.exists_base hid (mem_of_mem_basesOff hb)
    exact ⟨base, hbase, ih hbase hway⟩

end Embeds

end LookML.Extends
