import LookML.Proofs.Extends.Coverage
import LookML.Proofs.Extends.Observation
import LookML.Proofs.Layer.Trail
/-!
# Where merged members come from

What is left out on a cycle was come to on the way, and what is cut lies too far off. So, cut or
not, the walk comes to exactly the nodes that a chain with no more links than there is room for
leads to, and the trails of what it merges hold the places that their own content holds.
-/

namespace LookML.Extends

/-- A chain of at most `n` steps of `r` leads from the one to the other. -/
inductive LeadsWithin {α : Type} (r : α → α → Prop) : Nat → α → α → Prop
  | refl {n : Nat} {a : α} : LeadsWithin r n a a
  | tail {n : Nat} {a b c : α} : LeadsWithin r n a b → r b c → LeadsWithin r (n + 1) a c

variable {nodes : Array Node} {n root : Nat}

/-! ## How far the walk comes -/

namespace Visits

variable {room v w : Nat} {above : List Nat}

theorem exists_leadsWithin (h : Visits nodes n root room above v) :
    ∃ k, k + room = n ∧ LeadsWithin (Link nodes) k root v := by
  induction h with
  | root => exact ⟨0, Nat.zero_add n, .refl⟩
  | base _ hnode hb ih =>
    obtain ⟨k, hk, hv⟩ := ih
    exact ⟨k + 1, by omega, hv.tail ⟨_, hnode, mem_of_mem_basesOff hb⟩⟩

/-- A node that is near enough is come to, with room left for the links that remain. -/
theorem exists_of_leadsWithin {k : Nat} (h : LeadsWithin (Link nodes) k root w) (hk : k ≤ n) :
    ∃ room above, n ≤ room + k ∧ Visits nodes n root room above w := by
  induction h with
  | refl => exact ⟨n, [], Nat.le_add_right _ _, .root⟩
  | tail _ hlink ih =>
    obtain ⟨room, above, hroom, hv⟩ := ih (Nat.le_of_succ_le hk)
    obtain ⟨node, hnode, hw⟩ := hlink
    rename_i b c _
    by_cases habove : c ∈ above
    · obtain ⟨room', above', hmore, hc⟩ := hv.exists_of_mem_above habove
      exact ⟨room', above', by omega, hc⟩
    · have hoff : c ∈ node.basesOff above := List.mem_filter.2 ⟨hw, by simpa using habove⟩
      obtain ⟨room, rfl⟩ : ∃ r, room = r + 1 := Nat.exists_eq_succ_of_ne_zero (by omega)
      exact ⟨room, b :: above, by omega, hv.base hnode hoff⟩

end Visits

theorem LeadsWithin.mono {α : Type} {r : α → α → Prop} {k m : Nat} {a b : α}
    (h : LeadsWithin r k a b) (hle : k ≤ m) : LeadsWithin r m a b := by
  induction h generalizing m with
  | refl => exact .refl
  | tail _ hr ih =>
    obtain ⟨m, rfl⟩ : ∃ l, m = l + 1 := Nat.exists_eq_succ_of_ne_zero (by omega)
    exact (ih (Nat.le_of_succ_le_succ hle)).tail hr

/-- The walk comes to exactly the nodes that are near enough. -/
theorem exists_visits_iff {w : Nat} :
    (∃ room above, Visits nodes n root room above w) ↔ LeadsWithin (Link nodes) n root w := by
  constructor
  · rintro ⟨room, above, h⟩
    obtain ⟨k, hk, hw⟩ := h.exists_leadsWithin
    exact hw.mono (by omega)
  · intro h
    obtain ⟨room, above, _, hw⟩ := Visits.exists_of_leadsWithin h (Nat.le_refl n)
    exact ⟨room, above, hw⟩

theorem Gathers.iff_leadsWithin {P : Layer → Prop} (h : Gathers nodes P) {node : Node}
    (hroot : nodes[root]? = some node) :
    P (mergeAfresh nodes n [] node root).layer ↔
      ∃ w other, LeadsWithin (Link nodes) n root w ∧ nodes[w]? = some other ∧ P other.own := by
  refine (h.iff_visits hroot).trans ?_
  simp only [exists_visits_iff]

/-! ## Trails -/

section Trail

variable {f : Layer → List Location} (hf : Layer.Trail f)
  (hown : ∀ {id : Nat} {node : Node}, nodes[id]? = some node → node.own.Distinct)
include hf hown

theorem trail_mergeAfresh_zero {id : Nat} {above : List Nat} {node : Node}
    (hid : nodes[id]? = some node) :
    f (mergeAfresh nodes 0 above node id).layer = f node.own :=
  observe_mergeAfresh_zero hf (hown hid) above id

/-- The trail of what is merged goes through the bases, one after another, and ends in the node's
own content. -/
theorem trail_mergeAfresh_succ {room id : Nat} {above : List Nat} {node : Node}
    (hid : nodes[id]? = some node) :
    f (mergeAfresh nodes (room + 1) above node id).layer =
      (observedBases nodes f room (id :: above) (node.basesOff above)).flatten ++ f node.own := by
  rw [observe_mergeAfresh_succ hf (hown hid), Layer.foldl_append_eq_flatten, List.nil_append]

omit hf hown in
theorem mem_flatten_observedBases {room : Nat} {above bases : List Nat} {l : Location} :
    l ∈ (observedBases nodes f room above bases).flatten ↔ ∃ b ∈ bases, ∃ base,
      nodes[b]? = some base ∧ l ∈ f (mergeAfresh nodes room above base b).layer := by
  simp only [observedBases, List.mem_flatten, List.mem_filterMap, Option.map_eq_some_iff]
  constructor
  · rintro ⟨_, ⟨b, hb, base, hbase, rfl⟩, hl⟩
    exact ⟨b, hb, base, hbase, hl⟩
  · rintro ⟨b, hb, base, hbase, hl⟩
    exact ⟨_, ⟨b, hb, base, hbase, rfl⟩, hl⟩

/-- The trails of a node hold what its own content holds and that of the bases. -/
theorem gathers_mem_trail (l : Location) : Gathers nodes (l ∈ f ·) where
  zero := by
    intro id above node hid
    rw [trail_mergeAfresh_zero hf hown hid]
  succ := by
    intro room id above node hid
    rw [trail_mergeAfresh_succ hf hown hid, List.mem_append, mem_flatten_observedBases, or_comm]

end Trail

/-! ## Owners -/

theorem ownedBy_mergeAfresh (room : Nat) (above : List Nat) {node : Node} (id : Nat)
    (hown : node.own.OwnedBy node.name) :
    (mergeAfresh nodes room above node id).layer.OwnedBy node.name := by
  have hreplacing : ∀ old m : Member, m.owner = node.name →
      (Member.replacing old m).owner = node.name := fun _ _ h => h
  cases room with
  | zero => exact Layer.allMembers_empty.overlay hreplacing hown
  | succ room =>
    refine Layer.AllMembers.overlay hreplacing ?_ hown
    rw [layer_mergeOnto]
    apply Layer.allMembers_foldl_overlay hreplacing _ Layer.allMembers_empty
    intro top htop
    obtain ⟨b, _, hb⟩ := List.mem_filterMap.1 htop
    obtain ⟨base, _, rfl⟩ := Option.map_eq_some_iff.1 hb
    exact Layer.ownedBy_bequeath _ _

end LookML.Extends
