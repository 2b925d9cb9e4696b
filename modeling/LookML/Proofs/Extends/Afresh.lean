import LookML.Extends.Walk
import Mathlib.Data.List.Basic
import Mathlib.Logic.Relation
/-!
# Merging bases without keeping anything

The walk over the bases in its plain form: the same recursion as `merge`, with nothing kept
between nodes. What it yields for a node depends on the way to the node only as far as the way
meets what the node leads to, and not on the room as long as the whole height fits into it.
-/

namespace LookML.Extends

open Relation

/-- The bases that do not lie on the way `above`. -/
def Node.basesOff (node : Node) (above : List Nat) : List Nat :=
  node.bases.filter (· ∉ above)

def mergeOnto (nodes : Array Node) (node : Node) (below : Node → Nat → Merged)
    (bases : List Nat) (m : Merged) : Merged :=
  bases.foldl (fun m baseId =>
    match nodes[baseId]? with
    | none => m
    | some base => m.addBase node base (below base baseId)) m

/-- The node `id` with its bases merged. Bases on the way to it are left out, and where no room is
left a node with bases is cut. -/
def mergeAfresh (nodes : Array Node) : (room : Nat) → (above : List Nat) → Node → Nat → Merged
  | 0, above, node, _ =>
    Merged.finish node { Merged.start node with truncated := !(node.basesOff above).isEmpty }
  | room + 1, above, node, id =>
    Merged.finish node
      (mergeOnto nodes node (mergeAfresh nodes room (id :: above)) (node.basesOff above)
        (.start node))

def Link (nodes : Array Node) (v w : Nat) : Prop :=
  ∃ node : Node, nodes[v]? = some node ∧ w ∈ node.bases

/-- The bases are nodes, and exactly the nodes that lead back to themselves are marked cyclic. -/
structure Consistent (nodes : Array Node) : Prop where
  base_lt : ∀ {id : Nat} {node : Node} {b : Nat}, nodes[id]? = some node → b ∈ node.bases →
    b < nodes.size
  isCyclic_iff : ∀ {id : Nat} {node : Node}, nodes[id]? = some node →
    (node.isCyclic = true ↔ TransGen (Link nodes) id id)

theorem Consistent.exists_base {nodes : Array Node} (hn : Consistent nodes) {id b : Nat}
    {node : Node} (hid : nodes[id]? = some node) (hb : b ∈ node.bases) :
    ∃ base, nodes[b]? = some base :=
  ⟨_, Array.getElem?_eq_getElem (hn.base_lt hid hb)⟩

theorem mem_of_mem_basesOff {node : Node} {above : List Nat} {b : Nat}
    (h : b ∈ node.basesOff above) : b ∈ node.bases :=
  (List.mem_filter.1 h).1

theorem basesOff_congr {nodes : Array Node} {id : Nat} {node : Node} {above above' : List Nat}
    (hid : nodes[id]? = some node)
    (h : ∀ b, TransGen (Link nodes) id b → (b ∈ above ↔ b ∈ above')) :
    node.basesOff above = node.basesOff above' := by
  apply List.filter_congr
  intro b hb
  simp only [h b (.single ⟨node, hid, hb⟩)]

/-! ## Merging several bases -/

section MergeOnto

variable {nodes : Array Node} {node : Node} {below below' : Node → Nat → Merged}

@[simp] theorem mergeOnto_nil (m : Merged) : mergeOnto nodes node below [] m = m := rfl

theorem mergeOnto_cons {b : Nat} {base : Node} (hb : nodes[b]? = some base) (bases : List Nat)
    (m : Merged) :
    mergeOnto nodes node below (b :: bases) m =
      mergeOnto nodes node below bases (m.addBase node base (below base b)) := by
  simp [mergeOnto, hb]

theorem mergeOnto_cons_none {b : Nat} (hb : nodes[b]? = none) (bases : List Nat) (m : Merged) :
    mergeOnto nodes node below (b :: bases) m = mergeOnto nodes node below bases m := by
  simp [mergeOnto, hb]

theorem mergeOnto_congr {bases : List Nat}
    (h : ∀ b ∈ bases, ∀ base, nodes[b]? = some base → below base b = below' base b)
    (m : Merged) :
    mergeOnto nodes node below bases m = mergeOnto nodes node below' bases m := by
  apply List.foldl_ext
  intro m b hb
  cases hbase : nodes[b]? with
  | none => rfl
  | some base => simp only [h b hb base hbase]

theorem truncated_mergeOnto {bases : List Nat} {m : Merged} :
    (mergeOnto nodes node below bases m).truncated = false ↔
      m.truncated = false ∧
        ∀ b ∈ bases, ∀ base, nodes[b]? = some base → (below base b).truncated = false := by
  induction bases generalizing m with
  | nil => simp
  | cons b bases ih =>
    cases hbase : nodes[b]? with
    | none =>
      rw [mergeOnto_cons_none hbase, ih]
      simp [hbase]
    | some base =>
      have hadd : (m.addBase node base (below base b)).truncated =
          (m.truncated || (below base b).truncated) := rfl
      rw [mergeOnto_cons hbase, ih, hadd, Bool.or_eq_false_iff]
      simp [hbase, and_assoc]

theorem le_height_mergeOnto (bases : List Nat) (m : Merged) :
    m.height ≤ (mergeOnto nodes node below bases m).height := by
  induction bases generalizing m with
  | nil => exact Nat.le_refl _
  | cons b bases ih =>
    cases hbase : nodes[b]? with
    | none =>
      rw [mergeOnto_cons_none hbase]
      exact ih m
    | some base =>
      rw [mergeOnto_cons hbase]
      exact Nat.le_trans (Nat.le_max_left _ _) (ih (m.addBase node base (below base b)))

theorem height_lt_mergeOnto {bases : List Nat} {m : Merged} {b : Nat} {base : Node}
    (hb : b ∈ bases) (hbase : nodes[b]? = some base) :
    (below base b).height < (mergeOnto nodes node below bases m).height := by
  induction bases generalizing m with
  | nil => cases hb
  | cons c bases ih =>
    rcases List.mem_cons.1 hb with rfl | hb
    · rw [mergeOnto_cons hbase]
      have hfirst : (below base b).height < (m.addBase node base (below base b)).height :=
        Nat.lt_of_lt_of_le (Nat.lt_succ_self _) (Nat.le_max_right _ _)
      exact Nat.lt_of_lt_of_le hfirst (le_height_mergeOnto bases _)
    · have hrest := fun m => ih (m := m) hb
      simp only [mergeOnto, List.foldl_cons] at hrest ⊢
      exact hrest _

theorem height_mergeOnto_le {bases : List Nat} {m : Merged} {n : Nat} (hm : m.height ≤ n)
    (h : ∀ b ∈ bases, ∀ base, nodes[b]? = some base → (below base b).height < n) :
    (mergeOnto nodes node below bases m).height ≤ n := by
  induction bases generalizing m with
  | nil => exact hm
  | cons b bases ih =>
    have hrest := fun c hc => h c (List.mem_cons_of_mem b hc)
    cases hbase : nodes[b]? with
    | none =>
      rw [mergeOnto_cons_none hbase]
      exact ih hm hrest
    | some base =>
      rw [mergeOnto_cons hbase]
      apply ih _ hrest
      exact Nat.max_le.2 ⟨hm, h b List.mem_cons_self base hbase⟩

end MergeOnto

/-! ## The way to a node and the room below it -/

variable {nodes : Array Node}

/-- Only the part of the way that the node leads to can close a cycle. -/
theorem mergeAfresh_above {room id : Nat} {node : Node} {above above' : List Nat}
    (hid : nodes[id]? = some node)
    (h : ∀ b, TransGen (Link nodes) id b → (b ∈ above ↔ b ∈ above')) :
    mergeAfresh nodes room above node id = mergeAfresh nodes room above' node id := by
  induction room generalizing above above' node id with
  | zero => simp only [mergeAfresh, basesOff_congr hid h]
  | succ room ih =>
    simp only [mergeAfresh, basesOff_congr hid h]
    congr 1
    apply mergeOnto_congr
    intro b hb base hbase
    apply ih hbase
    intro c hc
    have hlink : Link nodes id b := ⟨node, hid, mem_of_mem_basesOff hb⟩
    simp only [List.mem_cons, h c (.head hlink hc)]

theorem height_mergeAfresh_le (room : Nat) (above : List Nat) (node : Node) (id : Nat) :
    (mergeAfresh nodes room above node id).height ≤ room := by
  induction room generalizing above node id with
  | zero => exact Nat.le_refl 0
  | succ room ih =>
    apply height_mergeOnto_le (Nat.zero_le _)
    intro b _ base _
    exact Nat.lt_succ_of_le (ih (id :: above) base b)

/-- A chain that fits is merged in the same way whatever room is left below it. -/
theorem mergeAfresh_room (hn : Consistent nodes) {room room' id : Nat} {node : Node}
    {above : List Nat} (hid : nodes[id]? = some node)
    (htruncated : (mergeAfresh nodes room above node id).truncated = false)
    (hheight : (mergeAfresh nodes room above node id).height ≤ room') :
    mergeAfresh nodes room' above node id = mergeAfresh nodes room above node id := by
  induction room generalizing room' above node id with
  | zero =>
    have hbases : node.basesOff above = [] := by
      simpa [mergeAfresh, Merged.finish] using htruncated
    cases room' <;> simp [mergeAfresh, hbases, Merged.start]
  | succ room ih =>
    simp only [mergeAfresh, Merged.finish] at htruncated hheight
    have hbelow := (truncated_mergeOnto.1 htruncated).2
    cases room' with
    | zero =>
      have hbases : node.basesOff above = [] := by
        apply List.eq_nil_iff_forall_not_mem.2
        intro b hb
        obtain ⟨base, hbase⟩ := hn.exists_base hid (mem_of_mem_basesOff hb)
        exact absurd (Nat.lt_of_lt_of_le (height_lt_mergeOnto hb hbase) hheight)
          (Nat.not_lt_zero _)
      simp [mergeAfresh, hbases, Merged.start]
    | succ room' =>
      simp only [mergeAfresh]
      congr 1
      apply mergeOnto_congr
      intro b hb base hbase
      apply ih hbase (hbelow b hb base hbase)
      exact Nat.le_of_lt_succ (Nat.lt_of_lt_of_le (height_lt_mergeOnto hb hbase) hheight)

end LookML.Extends
