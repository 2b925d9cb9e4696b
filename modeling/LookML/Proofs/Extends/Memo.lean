import LookML.Proofs.Definition.Linking
import Mathlib.Data.List.Induction
/-!
# Keeping what was merged

What the walk keeps for a node is what it would merge there anew: nothing of it was cut, and the
node lies on no cycle, so that no way to the node meets what it leads to. Hence the walk yields the
same with and without its memo, in whatever order the nodes are merged.
-/

namespace LookML.Extends

open Relation

variable {nodes : Array Node}

/-- What is kept is the result of some walk that cut nothing, for a node on no cycle. -/
def Memo.Sound (nodes : Array Node) (memo : Memo) : Prop :=
  ∀ id kept, memo.get? id = some kept → ∃ node : Node, nodes[id]? = some node ∧
    node.isCyclic = false ∧ kept.truncated = false ∧
      ∃ room, mergeAfresh nodes room [] node id = kept

def mergeBelow (nodes : Array Node) (room : Nat) (above : List Nat) (node : Node)
    (bases : List Nat) (start : Merged × Memo) : Merged × Memo :=
  bases.foldl (fun (m, memo) baseId =>
    match nodes[baseId]? with
    | none => (m, memo)
    | some base =>
      let (below, memo) := merge nodes room above memo base baseId
      (m.addBase node base below, memo)) start

theorem merge_of_kept {room id : Nat} {above : List Nat} {memo : Memo} {node : Node}
    {kept : Merged} (h : memo.get? id = some kept) (hroom : kept.height ≤ room) :
    merge nodes room above memo node id = (kept, memo) := by
  cases room <;> simp [merge, h, hroom, Option.filter]

theorem merge_zero {id : Nat} {above : List Nat} {memo : Memo} {node : Node}
    (h : (memo.get? id).filter (·.height ≤ 0) = none) :
    merge nodes 0 above memo node id =
      (mergeAfresh nodes 0 above node id,
        memo.keep id node (mergeAfresh nodes 0 above node id)) := by
  rw [merge, h]
  rfl

theorem merge_succ {room id : Nat} {above : List Nat} {memo : Memo} {node : Node}
    (h : (memo.get? id).filter (·.height ≤ room + 1) = none) :
    ∃ r, r = mergeBelow nodes room (id :: above) node (node.basesOff above) (.start node, memo) ∧
      merge nodes (room + 1) above memo node id =
        (r.1.finish node, r.2.keep id node (r.1.finish node)) := by
  refine ⟨_, rfl, ?_⟩
  rw [merge, h]
  rfl

/-! ## The memo stays sound -/

theorem Memo.sound_replicate (n : Nat) : Memo.Sound nodes (Array.replicate n none) := by
  intro id kept h
  simp only [Memo.get?, Array.getElem?_replicate] at h
  split at h <;> cases h

theorem not_mem_above (hn : Consistent nodes) {id b : Nat} {node : Node} {above : List Nat}
    (hid : nodes[id]? = some node) (habove : ∀ a ∈ above, TransGen (Link nodes) a id)
    (hcyclic : node.isCyclic = false) (hb : TransGen (Link nodes) id b) : b ∉ above := by
  intro hmem
  have hcycle := (hn.isCyclic_iff hid).2 (hb.trans (habove b hmem))
  rw [hcyclic] at hcycle
  cases hcycle

theorem mergeAfresh_nil_of_not_cyclic (hn : Consistent nodes) {room id : Nat} {node : Node}
    {above : List Nat} (hid : nodes[id]? = some node)
    (habove : ∀ a ∈ above, TransGen (Link nodes) a id) (hcyclic : node.isCyclic = false) :
    mergeAfresh nodes room [] node id = mergeAfresh nodes room above node id := by
  apply mergeAfresh_above hid
  intro b hb
  simp [not_mem_above hn hid habove hcyclic hb]

theorem Memo.Sound.keep (hn : Consistent nodes) {memo : Memo} (hmemo : memo.Sound nodes)
    {room id : Nat} {node : Node} {above : List Nat} (hid : nodes[id]? = some node)
    (habove : ∀ a ∈ above, TransGen (Link nodes) a id) :
    (memo.keep id node (mergeAfresh nodes room above node id)).Sound nodes := by
  unfold Memo.keep
  split
  · exact hmemo
  · rename_i hkeep
    simp only [Bool.or_eq_true, not_or, Bool.not_eq_true] at hkeep
    intro id' kept h
    rw [Memo.get?, Array.getElem?_setIfInBounds] at h
    split at h
    · rename_i heq
      subst heq
      split at h
      · cases h
        exact ⟨node, hid, hkeep.2, hkeep.1, room,
          mergeAfresh_nil_of_not_cyclic hn hid habove hkeep.2⟩
      · cases h
    · exact hmemo id' kept h

theorem Memo.Sound.eq_mergeAfresh (hn : Consistent nodes) {memo : Memo}
    (hmemo : memo.Sound nodes) {room id : Nat} {node : Node} {above : List Nat} {kept : Merged}
    (hid : nodes[id]? = some node) (habove : ∀ a ∈ above, TransGen (Link nodes) a id)
    (hkept : memo.get? id = some kept) (hroom : kept.height ≤ room) :
    kept = mergeAfresh nodes room above node id := by
  obtain ⟨node', hid', hcyclic, htruncated, room', rfl⟩ := hmemo id kept hkept
  rw [hid] at hid'
  cases hid'
  rw [← mergeAfresh_nil_of_not_cyclic hn hid habove hcyclic]
  exact (mergeAfresh_room hn hid htruncated hroom).symm

/-! ## The walk with and without its memo -/

/-- One walk yields what it yields anew, and leaves a sound memo. -/
def Transparent (nodes : Array Node) (room : Nat) : Prop :=
  ∀ (above : List Nat) (memo : Memo) (node : Node) (id : Nat), memo.Sound nodes →
    nodes[id]? = some node → (∀ a ∈ above, TransGen (Link nodes) a id) →
      (merge nodes room above memo node id).1 = mergeAfresh nodes room above node id ∧
        (merge nodes room above memo node id).2.Sound nodes

theorem mergeBelow_spec {room : Nat} (ih : Transparent nodes room) {above : List Nat}
    {node : Node} {bases : List Nat}
    (habove : ∀ b ∈ bases, ∀ a ∈ above, TransGen (Link nodes) a b) (m : Merged) {memo : Memo}
    (hmemo : memo.Sound nodes) :
    (mergeBelow nodes room above node bases (m, memo)).1 =
        mergeOnto nodes node (mergeAfresh nodes room above) bases m ∧
      (mergeBelow nodes room above node bases (m, memo)).2.Sound nodes := by
  induction bases generalizing m memo with
  | nil => exact ⟨rfl, hmemo⟩
  | cons b bases ihb =>
    have hrest := fun c hc => habove c (List.mem_cons_of_mem b hc)
    cases hb : nodes[b]? with
    | none =>
      simpa only [mergeBelow, mergeOnto, List.foldl_cons, hb] using ihb hrest m hmemo
    | some base =>
      obtain ⟨heq, hsound⟩ := ih above memo base b hmemo hb (habove b List.mem_cons_self)
      have hnext := ihb hrest (m.addBase node base (mergeAfresh nodes room above base b)) hsound
      rw [mergeOnto_cons hb]
      simpa only [mergeBelow, List.foldl_cons, hb, heq] using hnext

theorem transparent_merge (hn : Consistent nodes) (room : Nat) : Transparent nodes room := by
  induction room with
  | zero =>
    intro above memo node id hmemo hid habove
    cases hget : (memo.get? id).filter (·.height ≤ 0) with
    | some kept =>
      obtain ⟨hkept, hroom⟩ := Option.filter_eq_some_iff.1 hget
      rw [merge_of_kept hkept (by simpa using hroom)]
      exact ⟨hmemo.eq_mergeAfresh hn hid habove hkept (by simpa using hroom), hmemo⟩
    | none =>
      rw [merge_zero hget]
      exact ⟨rfl, hmemo.keep hn hid habove⟩
  | succ room ih =>
    intro above memo node id hmemo hid habove
    cases hget : (memo.get? id).filter (·.height ≤ room + 1) with
    | some kept =>
      obtain ⟨hkept, hroom⟩ := Option.filter_eq_some_iff.1 hget
      rw [merge_of_kept hkept (by simpa using hroom)]
      exact ⟨hmemo.eq_mergeAfresh hn hid habove hkept (by simpa using hroom), hmemo⟩
    | none =>
      have hway : ∀ b ∈ node.basesOff above, ∀ a ∈ id :: above, TransGen (Link nodes) a b := by
        intro b hb a ha
        have hlink : Link nodes id b := ⟨node, hid, mem_of_mem_basesOff hb⟩
        rcases List.mem_cons.1 ha with rfl | ha
        · exact .single hlink
        · exact (habove a ha).tail hlink
      obtain ⟨heq, hsound⟩ := mergeBelow_spec ih hway (.start node) hmemo
      obtain ⟨⟨m, memo'⟩, hr, hmerge⟩ := merge_succ hget
      rw [← hr] at heq hsound
      simp only at heq hsound
      subst heq
      rw [hmerge]
      have hkeep : (memo'.keep id node (mergeAfresh nodes (room + 1) above node id)).Sound nodes :=
        hsound.keep hn hid habove
      exact ⟨rfl, hkeep⟩

/-! ## Any order of merging -/

/-- One more node merged, the last one first. -/
def mergeNext (nodes : Array Node) (state : List Merged × Memo) (next : Node × Nat) :
    List Merged × Memo :=
  let (m, memo) := merge nodes maxExtendsDepth [] state.2 next.1 next.2
  (m :: state.1, memo)

/-- The nodes of `order` merged one after another, where what is kept for one serves those that
come after it. -/
def mergeInOrder (nodes : Array Node) (order : List Nat) : List Merged :=
  ((order.filterMap fun id => nodes[id]?.map (·, id)).foldl (mergeNext nodes)
    ([], Array.replicate nodes.size none)).1.reverse

theorem zipIdx_eq_filterMap_range {α : Type} (l : List α) :
    l.zipIdx = (List.range l.length).filterMap fun id => l[id]?.map (·, id) := by
  induction l using List.reverseRecOn with
  | nil => rfl
  | append_singleton l x ih =>
    have hcongr : ∀ id ∈ List.range l.length,
        (l ++ [x])[id]?.map (·, id) = l[id]?.map (·, id) := by
      intro id hid
      rw [List.getElem?_append_left (List.mem_range.1 hid)]
    rw [List.zipIdx_append, List.length_append, List.length_singleton, List.range_succ,
      List.filterMap_append, List.filterMap_congr hcongr, ← ih]
    simp

theorem mergeAll_eq_mergeInOrder (nodes : Array Node) :
    mergeAll nodes = mergeInOrder nodes (List.range nodes.size) := by
  have hzip := zipIdx_eq_filterMap_range nodes.toList
  simp only [Array.length_toList, Array.getElem?_toList] at hzip
  unfold mergeAll mergeInOrder
  rw [← hzip, ← Array.foldl_toList, Array.toList_zipIdx]
  rfl

theorem foldl_mergeNext (hn : Consistent nodes) (pairs : List (Node × Nat))
    (hpairs : ∀ p ∈ pairs, nodes[p.2]? = some p.1) {state : List Merged × Memo}
    (hmemo : state.2.Sound nodes) :
    (pairs.foldl (mergeNext nodes) state).1.reverse =
      state.1.reverse ++ pairs.map fun p => mergeAfresh nodes maxExtendsDepth [] p.1 p.2 := by
  induction pairs generalizing state with
  | nil => simp
  | cons p pairs ih =>
    have hrest := fun q hq => hpairs q (List.mem_cons_of_mem p hq)
    obtain ⟨heq, hsound⟩ := transparent_merge hn maxExtendsDepth [] state.2 p.1 p.2 hmemo
      (hpairs p List.mem_cons_self) (by simp)
    have hstate : (mergeNext nodes state p).2.Sound nodes := hsound
    rw [List.foldl_cons, ih hrest hstate]
    simp [mergeNext, heq]

theorem mergeInOrder_eq (hn : Consistent nodes) (order : List Nat) :
    mergeInOrder nodes order = order.filterMap fun id =>
      nodes[id]?.map fun node => mergeAfresh nodes maxExtendsDepth [] node id := by
  have hpairs : ∀ p ∈ order.filterMap fun id => nodes[id]?.map (·, id),
      nodes[p.2]? = some p.1 := by
    intro p hp
    obtain ⟨id, _, hid⟩ := List.mem_filterMap.1 hp
    obtain ⟨node, hnode, rfl⟩ := Option.map_eq_some_iff.1 hid
    exact hnode
  unfold mergeInOrder
  rw [foldl_mergeNext hn _ hpairs (Memo.sound_replicate _), List.map_filterMap]
  simp only [List.reverse_nil, List.nil_append, Option.map_map, Function.comp_def]

theorem mergeAll_eq (hn : Consistent nodes) :
    mergeAll nodes = (List.range nodes.size).filterMap fun id =>
      nodes[id]?.map fun node => mergeAfresh nodes maxExtendsDepth [] node id := by
  rw [mergeAll_eq_mergeInOrder, mergeInOrder_eq hn]

/-- Whatever the definitions extend and in whatever order they are merged, with the memo every one
of them gets the layer, the reasons, the cut and the height that it gets without. -/
theorem memo_transparent [ComponentFinder] (ds : List Definition) :
    (∀ order : List Nat, mergeInOrder (Definition.nodes ds) order =
      order.filterMap fun id => (Definition.nodes ds)[id]?.map fun node =>
        mergeAfresh (Definition.nodes ds) maxExtendsDepth [] node id) ∧
    mergeAll (Definition.nodes ds) =
      mergeInOrder (Definition.nodes ds) (List.range ds.length) := by
  refine ⟨mergeInOrder_eq (Definition.consistent_nodes ds), ?_⟩
  rw [mergeAll_eq_mergeInOrder, Definition.size_nodes]

end LookML.Extends
