import LookML.Extends.Graph
import Mathlib.Data.List.Basic
import Mathlib.Data.List.Lattice
import Mathlib.Logic.Relation
/-!
# Components and cycles

The components that are cycles are those of the nodes that lead back to themselves: nodes with
another one in their component, and nodes that are their own base. However the library lists them,
they are the same up to the order of their members.
-/

namespace LookML.Extends.Graph

open Relation

variable {g : Graph} {u v w : Nat}

/-- Each of the two nodes leads to the other. -/
def Mutual (g : Graph) (v w : Nat) : Prop :=
  ReflTransGen g.Edge v w ∧ ReflTransGen g.Edge w v

theorem Mutual.refl (v : Nat) : g.Mutual v v :=
  ⟨.refl, .refl⟩

theorem Mutual.symm (h : g.Mutual v w) : g.Mutual w v :=
  ⟨h.2, h.1⟩

theorem Mutual.trans (huv : g.Mutual u v) (hvw : g.Mutual v w) : g.Mutual u w :=
  ⟨huv.1.trans hvw.1, hvw.2.trans huv.2⟩

theorem mutual_iff_of_ne (hne : w ≠ v) :
    g.Mutual v w ↔ TransGen g.Edge v w ∧ TransGen g.Edge w v := by
  simp only [Mutual, reflTransGen_iff_eq_or_transGen, hne, Ne.symm hne, false_or]

theorem basesOf_of_size_le (h : g.size ≤ v) : g.basesOf v = [] :=
  List.eq_nil_iff_forall_not_mem.2 fun _ hw => Nat.not_lt_of_le h (lt_size_of_edge hw).1

theorem lt_size_of_reaches (h : ReflTransGen g.Edge v w) (hw : w < g.size) : v < g.size := by
  rcases ReflTransGen.cases_head h with rfl | ⟨b, hb, _⟩
  · exact hw
  · exact (lt_size_of_edge hb).1

theorem transGen_self_iff :
    TransGen g.Edge v v ↔ g.Edge v v ∨ ∃ w, w ≠ v ∧ g.Mutual v w := by
  constructor
  · intro hcycle
    obtain ⟨b, hb, hrest⟩ := TransGen.head'_iff.1 hcycle
    by_cases hbv : b = v
    · exact Or.inl (hbv ▸ hb)
    · exact Or.inr ⟨b, hbv, .single hb, hrest⟩
  · rintro (hloop | ⟨w, hwv, hvw, hback⟩)
    · exact .single hloop
    · rcases ReflTransGen.cases_head hvw with rfl | ⟨b, hb, hbw⟩
      · exact absurd rfl hwv
      · exact TransGen.head' hb (hbw.trans hback)

/-- All nodes of a component lead back to themselves if one does. -/
theorem Mutual.cyclic (h : g.Mutual v w) (hw : TransGen g.Edge w w) : TransGen g.Edge v v :=
  TransGen.trans_right h.1 (TransGen.trans_left hw h.2)

/-! ## One component -/

open Classical in
noncomputable def component (g : Graph) (v : Nat) : List Nat :=
  (List.range g.size).filter fun w => g.Mutual v w

theorem mem_component_iff : w ∈ g.component v ↔ w < g.size ∧ g.Mutual v w := by
  simp only [component, List.mem_filter, List.mem_range, decide_eq_true_eq]

theorem mem_component_self (hv : v < g.size) : v ∈ g.component v :=
  mem_component_iff.2 ⟨hv, .refl v⟩

theorem component_eq_of_mutual (h : g.Mutual v w) : g.component v = g.component w := by
  apply List.filter_congr
  intro u _
  rw [decide_eq_decide]
  exact ⟨h.symm.trans, h.trans⟩

theorem component_eq_of_mem (h : w ∈ g.component v) : g.component w = g.component v :=
  (component_eq_of_mutual (mem_component_iff.1 h).2).symm

theorem pairwise_lt_component (g : Graph) (v : Nat) : (g.component v).Pairwise (· < ·) :=
  List.pairwise_lt_range.filter _

theorem le_of_head?_component {first : Nat} (hfirst : (g.component v).head? = some first)
    (hw : w ∈ g.component v) : first ≤ w := by
  obtain ⟨rest, hrest⟩ : ∃ rest, g.component v = first :: rest := by
    cases hcomponent : g.component v with
    | nil => simp [hcomponent] at hfirst
    | cons x rest =>
      rw [hcomponent, List.head?_cons, Option.some.injEq] at hfirst
      exact ⟨rest, by rw [hfirst]⟩
  have hsorted := pairwise_lt_component g v
  rw [hrest] at hsorted hw
  rcases List.mem_cons.1 hw with rfl | hw
  · exact Nat.le_refl _
  · exact Nat.le_of_lt ((List.pairwise_cons.1 hsorted).1 w hw)

/-! ## The components as they are listed -/

variable {components : List (List Nat)} {members : List Nat}

namespace ListsComponents

theorem mem_iff_mem_component (h : g.ListsComponents components) (hmembers : members ∈ components)
    (hv : v ∈ members) : w ∈ members ↔ w ∈ g.component v := by
  have hlt {u : Nat} (hu : u ∈ members) : u < g.size :=
    (h.mem_iff u).1 (List.mem_flatten_of_mem hmembers hu)
  by_cases hne : w = v
  · subst hne
    exact iff_of_true hv (mem_component_self (hlt hv))
  · rw [mem_component_iff, mutual_iff_of_ne hne, h.together members hmembers v hv w hne]
    constructor
    · intro hmutual
      exact ⟨hlt ((h.together members hmembers v hv w hne).2 hmutual), hmutual⟩
    · exact And.right

theorem perm_component (h : g.ListsComponents components) (hmembers : members ∈ components)
    (hv : v ∈ members) : members.Perm (g.component v) := by
  have hnodup : members.Nodup := (List.pairwise_flatten.1 h.nodup).1 members hmembers
  refine (List.perm_ext_iff_of_nodup hnodup
    ((pairwise_lt_component g v).imp Nat.ne_of_lt)).2 fun w => ?_
  exact h.mem_iff_mem_component hmembers hv

theorem exists_mem (h : g.ListsComponents components) (hv : v < g.size) :
    ∃ members ∈ components, v ∈ members :=
  List.mem_flatten.1 ((h.mem_iff v).2 hv)

theorem pairwise_disjoint (h : g.ListsComponents components) :
    components.Pairwise List.Disjoint :=
  (List.pairwise_flatten.1 h.nodup).2.imp fun hne v hv hv' => hne v hv v hv' rfl

end ListsComponents

theorem isCycle_iff (h : g.ListsComponents components) (hmembers : members ∈ components)
    (hv : v ∈ members) : g.isCycle members = true ↔ TransGen g.Edge v v := by
  have hnodup : members.Nodup := (List.pairwise_flatten.1 h.nodup).1 members hmembers
  rw [transGen_self_iff, isCycle, Bool.or_eq_true, decide_eq_true_eq]
  match members with
  | [] => cases hv
  | [x] =>
    obtain rfl := List.mem_singleton.1 hv
    have hnone : ¬ ∃ w, w ≠ v ∧ g.Mutual v w := by
      rintro ⟨w, hne, hmutual⟩
      have hw := (h.together _ hmembers v hv w hne).2 ((mutual_iff_of_ne hne).1 hmutual)
      exact hne (List.mem_singleton.1 hw)
    simp [Edge, hnone]
  | x :: y :: rest =>
    obtain ⟨w, hw, hne⟩ : ∃ w ∈ x :: y :: rest, w ≠ v := by
      by_cases hx : x = v
      · refine ⟨y, by simp, ?_⟩
        rintro rfl
        exact (List.nodup_cons.1 hnodup).1 (hx ▸ List.mem_cons_self)
      · exact ⟨x, List.mem_cons_self, hx⟩
    have hmutual := (mutual_iff_of_ne hne).2 ((h.together _ hmembers v hv w hne).1 hw)
    simpa using Or.inr ⟨w, hne, hmutual⟩

section Finder

variable [ComponentFinder]

theorem mem_cycles_iff :
    members ∈ g.cycles ↔ members ∈ ComponentFinder.components g ∧
      ∃ v ∈ members, TransGen g.Edge v v := by
  have hlists := ComponentFinder.correct g
  rw [cycles, List.mem_filter]
  constructor
  · rintro ⟨hmembers, hcycle⟩
    obtain ⟨v, hv⟩ := List.exists_mem_of_ne_nil members
      fun hnil => hlists.nonempty (hnil ▸ hmembers)
    exact ⟨hmembers, v, hv, (isCycle_iff hlists hmembers hv).1 hcycle⟩
  · rintro ⟨hmembers, v, hv, hcycle⟩
    exact ⟨hmembers, (isCycle_iff hlists hmembers hv).2 hcycle⟩

theorem isCyclic_iff (g : Graph) (v : Nat) : g.isCyclic v = true ↔ TransGen g.Edge v v := by
  have hlists := ComponentFinder.correct g
  simp only [isCyclic, List.any_eq_true, decide_eq_true_eq, mem_cycles_iff]
  constructor
  · rintro ⟨members, ⟨hmembers, w, hw, hcycle⟩, hv⟩
    have hmutual := (mem_component_iff.1 ((hlists.mem_iff_mem_component hmembers hv).1 hw)).2
    exact hmutual.cyclic hcycle
  · intro hcycle
    obtain ⟨b, hb, _⟩ := TransGen.head'_iff.1 hcycle
    obtain ⟨members, hmembers, hv⟩ := hlists.exists_mem (lt_size_of_edge hb).1
    exact ⟨members, ⟨hmembers, v, hv, hcycle⟩, hv⟩

/-! ## Cycles in order of definition -/

def orderedCycles (g : Graph) : List (List Nat) :=
  g.cycles.map fun members => (List.range g.size).filter (· ∈ members)

theorem filter_mem_eq_component (hmembers : members ∈ ComponentFinder.components g)
    (hv : v ∈ members) : (List.range g.size).filter (· ∈ members) = g.component v := by
  apply List.filter_congr
  intro w hw
  rw [decide_eq_decide,
    (ComponentFinder.correct g).mem_iff_mem_component hmembers hv, mem_component_iff]
  exact and_iff_right (List.mem_range.1 hw)

theorem mem_orderedCycles_iff :
    members ∈ g.orderedCycles ↔
      ∃ v < g.size, TransGen g.Edge v v ∧ members = g.component v := by
  have hlists := ComponentFinder.correct g
  rw [orderedCycles, List.mem_map]
  constructor
  · rintro ⟨listed, hlisted, rfl⟩
    obtain ⟨hmem, v, hv, hcycle⟩ := mem_cycles_iff.1 hlisted
    have hsize := (hlists.mem_iff v).1 (List.mem_flatten_of_mem hmem hv)
    exact ⟨v, hsize, hcycle, filter_mem_eq_component hmem hv⟩
  · rintro ⟨v, hv, hcycle, rfl⟩
    obtain ⟨listed, hlisted, hmem⟩ := hlists.exists_mem hv
    exact ⟨listed, mem_cycles_iff.2 ⟨hlisted, v, hmem, hcycle⟩,
      filter_mem_eq_component hlisted hmem⟩

theorem exists_first_of_mem_orderedCycles (h : members ∈ g.orderedCycles) :
    ∃ first, members.head? = some first ∧ members = g.component first ∧ first < g.size ∧
      TransGen g.Edge first first := by
  obtain ⟨v, hv, hcycle, rfl⟩ := mem_orderedCycles_iff.1 h
  have hmem := mem_component_self hv
  obtain ⟨first, hfirst⟩ : ∃ first, (g.component v).head? = some first :=
    Option.isSome_iff_exists.1 (List.isSome_head?.2 (List.ne_nil_of_mem hmem))
  have hfirstmem := List.mem_of_mem_head? hfirst
  obtain ⟨hsize, hmutual⟩ := mem_component_iff.1 hfirstmem
  exact ⟨first, hfirst, (component_eq_of_mem hfirstmem).symm, hsize, hmutual.symm.cyclic hcycle⟩

theorem pairwise_disjoint_orderedCycles (g : Graph) : g.orderedCycles.Pairwise List.Disjoint := by
  rw [orderedCycles, List.pairwise_map]
  apply ((ComponentFinder.correct g).pairwise_disjoint.filter _).imp
  intro members members' hdisjoint v hv hv'
  exact hdisjoint (by simpa using (List.mem_filter.1 hv).2) (by simpa using (List.mem_filter.1 hv').2)

end Finder

end LookML.Extends.Graph
