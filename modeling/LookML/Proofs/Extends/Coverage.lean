import LookML.Proofs.Extends.Inheritance
/-!
# What the walk over the bases comes to

On a cycle the walk leaves out the bases that lie on the way to a node. Nothing is lost by that: it
came to each of them before. So a walk that is not cut comes to every node that its root leads to,
and the root answers whatever one of them answers.
-/

namespace LookML.Extends

open Relation

/-- The walk from `root` with room for `n` links comes to a node, with `room` left and the nodes
`above` on the way. -/
inductive Visits (nodes : Array Node) (n root : Nat) : Nat → List Nat → Nat → Prop
  | root : Visits nodes n root n [] root
  | base {room v b : Nat} {above : List Nat} {node : Node} :
      Visits nodes n root (room + 1) above v → nodes[v]? = some node → b ∈ node.basesOff above →
      Visits nodes n root room (v :: above) b

variable {nodes : Array Node} {n root : Nat}

namespace Visits

variable {room v w : Nat} {above : List Nat} {node base : Node}

theorem exists_of_mem_above (h : Visits nodes n root room above v) {a : Nat} (ha : a ∈ above) :
    ∃ room' above', room < room' ∧ Visits nodes n root room' above' a := by
  induction h with
  | root => cases ha
  | base hv _ _ ih =>
    rcases List.mem_cons.1 ha with rfl | ha
    · exact ⟨_, _, Nat.lt_succ_self _, hv⟩
    · obtain ⟨room', above', hroom, ha⟩ := ih ha
      exact ⟨room', above', Nat.lt_of_succ_lt hroom, ha⟩

theorem reaches (h : Visits nodes n root room above v) : ReflTransGen (Link nodes) root v := by
  induction h with
  | root => exact .refl
  | base _ hnode hb ih => exact ih.tail ⟨_, hnode, mem_of_mem_basesOff hb⟩

theorem truncated_eq_false {rootNode : Node} (hroot : nodes[root]? = some rootNode)
    (huncut : (mergeAfresh nodes n [] rootNode root).truncated = false)
    (h : Visits nodes n root room above v) (hv : nodes[v]? = some node) :
    (mergeAfresh nodes room above node v).truncated = false := by
  induction h generalizing node with
  | root =>
    rw [hroot] at hv
    cases hv
    exact huncut
  | base _ hheir hb ih => exact (truncated_mergeOnto.1 (ih hheir)).2 _ hb _ hv

theorem exists_of_link {rootNode : Node} (hroot : nodes[root]? = some rootNode)
    (huncut : (mergeAfresh nodes n [] rootNode root).truncated = false)
    (h : Visits nodes n root room above v) (hlink : Link nodes v w) :
    ∃ room above, Visits nodes n root room above w := by
  obtain ⟨node, hnode, hw⟩ := hlink
  by_cases habove : w ∈ above
  · obtain ⟨room', above', _, hw⟩ := h.exists_of_mem_above habove
    exact ⟨room', above', hw⟩
  · have hoff : w ∈ node.basesOff above := List.mem_filter.2 ⟨hw, by simpa using habove⟩
    have hcut := h.truncated_eq_false hroot huncut hnode
    cases room with
    | zero =>
      have hnone : node.basesOff above = [] := by
        simpa [mergeAfresh, Merged.finish] using hcut
      rw [hnone] at hoff
      cases hoff
    | succ room => exact ⟨room, _, h.base hnode hoff⟩

/-- A walk that is not cut comes to exactly the nodes that its root leads to. -/
theorem exists_iff_reaches {rootNode : Node} (hroot : nodes[root]? = some rootNode)
    (huncut : (mergeAfresh nodes n [] rootNode root).truncated = false) :
    (∃ room above, Visits nodes n root room above w) ↔ ReflTransGen (Link nodes) root w := by
  constructor
  · rintro ⟨room, above, h⟩
    exact h.reaches
  · intro hreach
    induction hreach with
    | refl => exact ⟨n, [], .root⟩
    | tail _ hlink ih =>
      obtain ⟨room, above, hv⟩ := ih
      exact hv.exists_of_link hroot huncut hlink

end Visits

/-! ## What nodes hold -/

/-- A property that a node has through its own content, or through a base that is not on the way
to it. -/
structure Gathers (nodes : Array Node) (P : Layer → Prop) : Prop where
  zero : ∀ {id : Nat} {above : List Nat} {node : Node}, nodes[id]? = some node →
    (P (mergeAfresh nodes 0 above node id).layer ↔ P node.own)
  succ : ∀ {room id : Nat} {above : List Nat} {node : Node}, nodes[id]? = some node →
    (P (mergeAfresh nodes (room + 1) above node id).layer ↔ P node.own ∨
      ∃ b ∈ node.basesOff above, ∃ base, nodes[b]? = some base ∧
        P (mergeAfresh nodes room (id :: above) base b).layer)

namespace Gathers

variable {P : Layer → Prop} {room v : Nat} {above : List Nat} {node rootNode : Node}

theorem of_own (h : Gathers nodes P) (hv : nodes[v]? = some node) (hown : P node.own) :
    P (mergeAfresh nodes room above node v).layer := by
  cases room with
  | zero => exact (h.zero hv).2 hown
  | succ room => exact (h.succ hv).2 (.inl hown)

theorem of_visits (h : Gathers nodes P) (hroot : nodes[root]? = some rootNode)
    (hvisits : Visits nodes n root room above v) (hv : nodes[v]? = some node)
    (hP : P (mergeAfresh nodes room above node v).layer) :
    P (mergeAfresh nodes n [] rootNode root).layer := by
  induction hvisits generalizing node with
  | root =>
    rw [hroot] at hv
    cases hv
    exact hP
  | base _ hheir hb ih => exact ih hheir ((h.succ hheir).2 (.inr ⟨_, hb, _, hv, hP⟩))

theorem exists_own (h : Gathers nodes P) (hvisits : Visits nodes n root room above v)
    (hv : nodes[v]? = some node) (hP : P (mergeAfresh nodes room above node v).layer) :
    ∃ w other, (∃ room above, Visits nodes n root room above w) ∧ nodes[w]? = some other ∧
      P other.own := by
  induction room generalizing v above node with
  | zero => exact ⟨v, node, ⟨_, _, hvisits⟩, hv, (h.zero hv).1 hP⟩
  | succ room ih =>
    rcases (h.succ hv).1 hP with hown | ⟨b, hb, base, hbase, hP⟩
    · exact ⟨v, node, ⟨_, _, hvisits⟩, hv, hown⟩
    · exact ih (hvisits.base hv hb) hbase hP

theorem iff_visits (h : Gathers nodes P) (hroot : nodes[root]? = some rootNode) :
    P (mergeAfresh nodes n [] rootNode root).layer ↔
      ∃ w other, (∃ room above, Visits nodes n root room above w) ∧ nodes[w]? = some other ∧
        P other.own := by
  constructor
  · exact h.exists_own .root hroot
  · rintro ⟨w, other, ⟨room, above, hvisits⟩, hw, hown⟩
    exact h.of_visits hroot hvisits hw (h.of_own hw hown)

end Gathers

/-! ## Answers -/

section Answers

variable {β : Type} {f : Layer → Option β} (hf : Layer.Lookup f)
  (hg : ∀ (base : Layer) (heir : EntityName), f (base.bequeath heir) = f base)
  (hown : ∀ {id : Nat} {node : Node}, nodes[id]? = some node → node.own.Distinct)
include hf hg hown

/-- A node answers what its own content answers, or a base that is not on the way to it. -/
theorem gathers_isSome : Gathers nodes fun l => (f l).isSome = true where
  zero := by
    intro id above node hid
    have hstart : f (Merged.start node).layer = none := hf.empty
    rw [mergeAfresh, lookup_finish hf (hown hid), hstart, Option.or_none]
  succ := by
    intro room id above node hid
    rw [mergeAfresh, lookup_finish hf (hown hid),
      lookup_mergeOnto hf node (distinct_mergeAfresh nodes room (id :: above)), Option.isSome_or,
      Bool.or_eq_true, List.findSome?_isSome_iff]
    simp only [hg, List.mem_reverse, Option.isSome_bind, Option.any_eq_true]

/-- A node that is not cut answers exactly what the content of some node that it leads to
answers. -/
theorem isSome_lookup_iff {node : Node} (hroot : nodes[root]? = some node)
    (huncut : (mergeAfresh nodes n [] node root).truncated = false) :
    (f (mergeAfresh nodes n [] node root).layer).isSome ↔
      ∃ w other, ReflTransGen (Link nodes) root w ∧ nodes[w]? = some other ∧
        (f other.own).isSome := by
  refine ((gathers_isSome hf hg hown).iff_visits hroot).trans ?_
  simp only [Visits.exists_iff_reaches hroot huncut]

omit hg in
theorem lookup_of_own {node : Node} (hroot : nodes[root]? = some node) {x : β}
    (h : f node.own = some x) : f (mergeAfresh nodes n [] node root).layer = some x := by
  cases n with
  | zero => rw [mergeAfresh, lookup_finish hf (hown hroot), h, Option.some_or]
  | succ n => rw [mergeAfresh, lookup_finish hf (hown hroot), h, Option.some_or]

theorem exists_own_of_lookup {room v : Nat} {above : List Nat} {node : Node}
    (hv : nodes[v]? = some node) {x : β}
    (h : f (mergeAfresh nodes room above node v).layer = some x) :
    ∃ w other, ReflTransGen (Link nodes) v w ∧ nodes[w]? = some other ∧ f other.own = some x := by
  induction room generalizing v above node with
  | zero =>
    have hstart : f (Merged.start node).layer = none := hf.empty
    rw [mergeAfresh, lookup_finish hf (hown hv), hstart, Option.or_none] at h
    exact ⟨v, node, .refl, hv, h⟩
  | succ room ih =>
    rw [mergeAfresh, lookup_finish hf (hown hv),
      lookup_mergeOnto hf node (distinct_mergeAfresh nodes room (v :: above)),
      Option.or_eq_some_iff] at h
    rcases h with hnode | ⟨_, hbases⟩
    · exact ⟨v, node, .refl, hv, hnode⟩
    · obtain ⟨b, hb, hanswer⟩ := List.exists_of_findSome?_eq_some hbases
      obtain ⟨base, hbase, hanswer⟩ := Option.bind_eq_some_iff.1 hanswer
      rw [hg] at hanswer
      obtain ⟨w, other, hreach, hw, hother⟩ := ih hbase hanswer
      have hlink : Link nodes v b := ⟨node, hv, mem_of_mem_basesOff (List.mem_reverse.1 hb)⟩
      exact ⟨w, other, .head hlink hreach, hw, hother⟩

end Answers

end LookML.Extends
