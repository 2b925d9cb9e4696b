import LookML.Proofs.Extends.Afresh
import LookML.Proofs.Layer.Lookup
import Mathlib.Data.List.Chain
/-!
# Inheriting along chains that fit

If no chain of bases from a node is too long, nothing is left out and nothing is cut below it: the
node is its own content on top of its bases, each merged as it would be on its own. So whatever is
asked of it, its own content answers, or else the last base that has an answer.
-/

namespace LookML.Extends

open Relation

variable {nodes : Array Node}

def ChainsFit (nodes : Array Node) (n id : Nat) : Prop :=
  ∀ chain, List.IsChain (Link nodes) (id :: chain) → chain.length ≤ n

theorem ChainsFit.base {n id b : Nat} (h : ChainsFit nodes (n + 1) id) (hb : Link nodes id b) :
    ChainsFit nodes n b := by
  intro chain hchain
  have hlonger := h (b :: chain) (List.isChain_cons_cons.2 ⟨hb, hchain⟩)
  rw [List.length_cons] at hlonger
  omega

theorem ChainsFit.not_link {id b : Nat} (h : ChainsFit nodes 0 id) : ¬ Link nodes id b := by
  intro hb
  have hone := h [b] (List.isChain_cons_cons.2 ⟨hb, .singleton b⟩)
  cases hone

theorem ChainsFit.not_cyclic {n id : Nat} (h : ChainsFit nodes n id) :
    ¬ TransGen (Link nodes) id id := by
  induction n generalizing id with
  | zero =>
    intro hcycle
    obtain ⟨b, hb, _⟩ := TransGen.head'_iff.1 hcycle
    exact h.not_link hb
  | succ n ih =>
    intro hcycle
    obtain ⟨b, hb, hrest⟩ := TransGen.head'_iff.1 hcycle
    exact ih (h.base hb) (TransGen.tail' hrest hb)

theorem ChainsFit.truncated_eq_false {room id : Nat} (h : ChainsFit nodes room id)
    {node : Node} (hid : nodes[id]? = some node) (above : List Nat) :
    (mergeAfresh nodes room above node id).truncated = false := by
  induction room generalizing above node id with
  | zero =>
    have hbases : node.basesOff above = [] := by
      apply List.eq_nil_iff_forall_not_mem.2
      intro b hb
      exact h.not_link ⟨node, hid, mem_of_mem_basesOff hb⟩
    simp [mergeAfresh, Merged.finish, hbases]
  | succ room ih =>
    apply truncated_mergeOnto.2
    refine ⟨rfl, ?_⟩
    intro b hb base hbase
    exact ih (h.base ⟨node, hid, mem_of_mem_basesOff hb⟩) hbase (id :: above)

theorem ChainsFit.mergeAfresh_eq (hn : Consistent nodes) {room id : Nat}
    (h : ChainsFit nodes room id) {node : Node} (hid : nodes[id]? = some node) :
    mergeAfresh nodes room [] node id =
      (mergeOnto nodes node (mergeAfresh nodes room []) node.bases (.start node)).finish node := by
  have hbases : node.basesOff [] = node.bases := by simp [Node.basesOff]
  cases room with
  | zero =>
    have hnil : node.bases = [] := by
      apply List.eq_nil_iff_forall_not_mem.2
      exact fun b hb => h.not_link ⟨node, hid, hb⟩
    simp [mergeAfresh, hbases, hnil, Merged.start]
  | succ room =>
    rw [mergeAfresh, hbases]
    congr 1
    apply mergeOnto_congr
    intro b hb base hbase
    have hlink : Link nodes id b := ⟨node, hid, hb⟩
    have hway : mergeAfresh nodes room [id] base b = mergeAfresh nodes room [] base b := by
      apply mergeAfresh_above hbase
      intro c hc
      have hne : c ≠ id := by
        rintro rfl
        exact h.not_cyclic (.head hlink hc)
      simp [hne]
    rw [hway]
    have hfits := (h.base hlink).truncated_eq_false hbase []
    have hheight : (mergeAfresh nodes room [] base b).height ≤ room + 1 :=
      Nat.le_succ_of_le (height_mergeAfresh_le room [] base b)
    exact (mergeAfresh_room hn hbase hfits hheight).symm

/-! ## What a node answers -/

theorem layer_mergeOnto (node : Node) (below : Node → Nat → Merged) (bases : List Nat)
    (m : Merged) :
    (mergeOnto nodes node below bases m).layer =
      (bases.filterMap fun b => nodes[b]?.map fun base =>
        (below base b).layer.bequeath node.name).foldl Layer.overlay m.layer := by
  induction bases generalizing m with
  | nil => rfl
  | cons b bases ih =>
    cases hbase : nodes[b]? with
    | none =>
      rw [List.filterMap_cons_none (by rw [hbase]; rfl), mergeOnto_cons_none hbase, ih]
    | some base =>
      rw [mergeOnto_cons hbase, List.filterMap_cons_some (by rw [hbase]; rfl), ih]
      rfl

/-- What holds of the content of every node, and of layers put on one another and passed on, holds
of what is merged. -/
theorem forall_mergeAfresh {P : Layer → Prop} (hempty : P .empty)
    (hoverlay : ∀ {bottom top : Layer}, P bottom → P top → P (bottom.overlay top))
    (hbequeath : ∀ {base : Layer}, P base → ∀ heir, P (base.bequeath heir))
    (hown : ∀ (id : Nat) (node : Node), nodes[id]? = some node → P node.own) {room id : Nat}
    {above : List Nat} {node : Node} (hid : nodes[id]? = some node) :
    P (mergeAfresh nodes room above node id).layer := by
  have hfoldl : ∀ {tops : List Layer}, (∀ top ∈ tops, P top) → ∀ {bottom : Layer}, P bottom →
      P (tops.foldl Layer.overlay bottom) := by
    intro tops htops
    induction tops with
    | nil => exact fun hbottom => hbottom
    | cons top tops ih =>
      rw [List.forall_mem_cons] at htops
      exact fun hbottom => ih htops.2 (hoverlay hbottom htops.1)
  induction room generalizing above node id with
  | zero => exact hoverlay hempty (hown id node hid)
  | succ room ih =>
    have hbases : P (mergeOnto nodes node (mergeAfresh nodes room (id :: above))
        (node.basesOff above) (.start node)).layer := by
      rw [layer_mergeOnto]
      apply hfoldl _ hempty
      intro top htop
      obtain ⟨b, _, hb⟩ := List.mem_filterMap.1 htop
      obtain ⟨base, hbase, rfl⟩ := Option.map_eq_some_iff.1 hb
      exact hbequeath (ih hbase) node.name
    exact hoverlay hbases (hown id node hid)

theorem distinct_mergeOnto (node : Node) (below : Node → Nat → Merged) (bases : List Nat)
    {m : Merged} (hm : m.layer.Distinct) :
    (mergeOnto nodes node below bases m).layer.Distinct := by
  rw [layer_mergeOnto]
  exact hm.foldl_overlay _

theorem distinct_mergeAfresh (nodes : Array Node) (room : Nat) (above : List Nat) (node : Node)
    (id : Nat) : (mergeAfresh nodes room above node id).layer.Distinct := by
  cases room with
  | zero => exact Layer.distinct_empty.overlay _
  | succ room => exact (distinct_mergeOnto _ _ _ Layer.distinct_empty).overlay _

theorem findSome?_reverse_filterMap {α β γ : Type} (f : α → Option β) (g : β → Option γ)
    (l : List α) :
    (l.filterMap f).reverse.findSome? g = l.reverse.findSome? fun x => (f x).bind g := by
  rw [← List.filterMap_reverse, ← List.head?_filterMap, List.filterMap_filterMap,
    List.head?_filterMap]

theorem lookup_mergeOnto {β : Type} {f : Layer → Option β} (hf : Layer.Lookup f) (node : Node)
    {below : Node → Nat → Merged} (hbelow : ∀ base b, (below base b).layer.Distinct)
    (bases : List Nat) :
    f (mergeOnto nodes node below bases (.start node)).layer =
      bases.reverse.findSome? fun b => nodes[b]?.bind fun base =>
        f ((below base b).layer.bequeath node.name) := by
  have hdistinct : ∀ top ∈ bases.filterMap fun b => nodes[b]?.map fun base =>
      (below base b).layer.bequeath node.name, top.Distinct := by
    intro top htop
    obtain ⟨b, _, hb⟩ := List.mem_filterMap.1 htop
    obtain ⟨base, _, rfl⟩ := Option.map_eq_some_iff.1 hb
    exact (hbelow base b).bequeath node.name
  have hstart : f (Merged.start node).layer = none := hf.empty
  rw [layer_mergeOnto, hf.foldl_overlay hdistinct, hstart, Option.or_none,
    findSome?_reverse_filterMap]
  simp only [Option.bind_map, Function.comp_def]

theorem lookup_finish {β : Type} {f : Layer → Option β} (hf : Layer.Lookup f) {node : Node}
    (hown : node.own.Distinct) (m : Merged) :
    f (m.finish node).layer = (f node.own).or (f m.layer) :=
  hf.overlay hown

/-- A node's own content answers, or else the last base that has an answer to pass on. -/
theorem ChainsFit.lookup_layer {β : Type} {f g : Layer → Option β} (hf : Layer.Lookup f)
    (hg : ∀ (base : Layer) (heir : EntityName), f (base.bequeath heir) = g base)
    (hn : Consistent nodes) {room id : Nat} (h : ChainsFit nodes room id) {node : Node}
    (hid : nodes[id]? = some node) (hown : node.own.Distinct) :
    f (mergeAfresh nodes room [] node id).layer =
      (f node.own).or (node.bases.reverse.findSome? fun b =>
        nodes[b]?.bind fun base => g (mergeAfresh nodes room [] base b).layer) := by
  rw [h.mergeAfresh_eq hn hid, lookup_finish hf hown,
    lookup_mergeOnto hf node (distinct_mergeAfresh nodes room [])]
  simp only [hg]

theorem lookup_layer_own {β : Type} {f : Layer → Option β} (hf : Layer.Lookup f)
    (hg : ∀ (base : Layer) (heir : EntityName), f (base.bequeath heir) = none) (room : Nat)
    (above : List Nat) {node : Node} (id : Nat) (hown : node.own.Distinct) :
    f (mergeAfresh nodes room above node id).layer = f node.own := by
  cases room with
  | zero =>
    have hstart : f (Merged.start node).layer = none := hf.empty
    exact (lookup_finish hf hown _).trans (by rw [hstart, Option.or_none])
  | succ room =>
    rw [mergeAfresh, lookup_finish hf hown,
      lookup_mergeOnto hf node (distinct_mergeAfresh nodes room (id :: above))]
    have hnone : ∀ b, (nodes[b]?.bind fun base =>
        f ((mergeAfresh nodes room (id :: above) base b).layer.bequeath node.name)) = none := by
      intro b
      simp only [hg, Option.bind_fun_none]
    rw [List.findSome?_eq_none_iff.2 fun b _ => hnone b, Option.or_none]

end LookML.Extends
