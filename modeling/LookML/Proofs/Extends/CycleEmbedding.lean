import LookML.Proofs.Extends.CyclePath
/-!
# Cycles under other numbers

A graph may be a part of another one in which its nodes have other numbers. As long as the nodes
keep their order and the part has all its bases, the cycles of the part are cycles of the whole,
with the same paths around them.
-/

namespace LookML.Extends.Graph

open Relation

/-- Every node of `g` is one of `g'`, under the number that `σ` gives it, and leads to no others. -/
structure Embeds (σ : Nat → Nat) (g g' : Graph) : Prop where
  lt_size : ∀ {v : Nat}, v < g.size → σ v < g'.size
  mono : ∀ {v w : Nat}, v < w → w < g.size → σ v < σ w
  basesOf : ∀ {v : Nat}, v < g.size → g'.basesOf (σ v) = (g.basesOf v).map σ

namespace Embeds

variable {σ : Nat → Nat} {g g' : Graph} {v w : Nat}

theorem injective (h : Embeds σ g g') (hv : v < g.size) (hw : w < g.size) (heq : σ v = σ w) :
    v = w := by
  rcases Nat.lt_trichotomy v w with hlt | rfl | hlt
  · have := h.mono hlt hw
    omega
  · rfl
  · have := h.mono hlt hv
    omega

theorem mem_map_iff (h : Embeds σ g g') {nodes : List Nat} (hnodes : ∀ w ∈ nodes, w < g.size)
    (hv : v < g.size) : σ v ∈ nodes.map σ ↔ v ∈ nodes := by
  constructor
  · intro hmem
    obtain ⟨w, hw, heq⟩ := List.mem_map.1 hmem
    exact h.injective (hnodes w hw) hv heq ▸ hw
  · exact List.mem_map_of_mem

/-! ## Components -/

theorem edge (h : Embeds σ g g') (hedge : g.Edge v w) : g'.Edge (σ v) (σ w) := by
  unfold Edge
  rw [h.basesOf (lt_size_of_edge hedge).1]
  exact List.mem_map_of_mem hedge

theorem exists_of_reaches (h : Embeds σ g g') (hv : v < g.size) {w' : Nat}
    (hreach : ReflTransGen g'.Edge (σ v) w') :
    ∃ w < g.size, σ w = w' ∧ ReflTransGen g.Edge v w := by
  induction hreach with
  | refl => exact ⟨v, hv, rfl, .refl⟩
  | tail _ hedge ih =>
    obtain ⟨b, hb, rfl, hvb⟩ := ih
    unfold Edge at hedge
    rw [h.basesOf hb] at hedge
    obtain ⟨w, hbw, rfl⟩ := List.mem_map.1 hedge
    exact ⟨w, (lt_size_of_edge hbw).2, rfl, hvb.tail hbw⟩

theorem reaches_iff (h : Embeds σ g g') (hv : v < g.size) (hw : w < g.size) :
    ReflTransGen g'.Edge (σ v) (σ w) ↔ ReflTransGen g.Edge v w := by
  constructor
  · intro hreach
    obtain ⟨u, hu, heq, hvu⟩ := h.exists_of_reaches hv hreach
    exact h.injective hu hw heq ▸ hvu
  · exact fun hreach => hreach.lift σ fun _ _ => h.edge

theorem cyclic_iff (h : Embeds σ g g') (hv : v < g.size) :
    TransGen g'.Edge (σ v) (σ v) ↔ TransGen g.Edge v v := by
  constructor
  · intro hcycle
    obtain ⟨b', hedge, hback⟩ := TransGen.head'_iff.1 hcycle
    unfold Edge at hedge
    rw [h.basesOf hv] at hedge
    obtain ⟨b, hb, rfl⟩ := List.mem_map.1 hedge
    exact TransGen.head' hb ((h.reaches_iff (lt_size_of_edge hb).2 hv).1 hback)
  · exact fun hcycle => hcycle.lift σ fun _ _ => h.edge

/-- The order of the nodes is kept, so that the members stand in the same order too. -/
theorem component_eq (h : Embeds σ g g') (hv : v < g.size) :
    g'.component (σ v) = (g.component v).map σ := by
  have hmap : ((g.component v).map σ).Pairwise (· < ·) := by
    rw [List.pairwise_map]
    apply (pairwise_lt_component g v).imp_of_mem
    intro u w _ hw hlt
    exact h.mono hlt (mem_component_iff.1 hw).1
  have hmem : ∀ w', w' ∈ g'.component (σ v) ↔ w' ∈ (g.component v).map σ := by
    intro w'
    rw [mem_component_iff, List.mem_map]
    constructor
    · rintro ⟨_, hforth, hback⟩
      obtain ⟨w, hw, rfl, hvw⟩ := h.exists_of_reaches hv hforth
      exact ⟨w, mem_component_iff.2 ⟨hw, hvw, (h.reaches_iff hw hv).1 hback⟩, rfl⟩
    · rintro ⟨w, hw, rfl⟩
      obtain ⟨hwlt, hvw, hwv⟩ := mem_component_iff.1 hw
      exact ⟨h.lt_size hwlt, (h.reaches_iff hv hwlt).2 hvw, (h.reaches_iff hwlt hv).2 hwv⟩
  have hsorted := pairwise_lt_component g' (σ v)
  have hperm : (g'.component (σ v)).Perm ((g.component v).map σ) :=
    (List.perm_ext_iff_of_nodup (hsorted.imp Nat.ne_of_lt) (hmap.imp Nat.ne_of_lt)).2 hmem
  exact hperm.eq_of_pairwise (fun _ _ _ _ hab hba => absurd hab (Nat.lt_asymm hba)) hsorted hmap

theorem map_mem_orderedCycles [ComponentFinder] (h : Embeds σ g g') {members : List Nat}
    (hmembers : members ∈ g.orderedCycles) : members.map σ ∈ g'.orderedCycles := by
  obtain ⟨v, hv, hcycle, rfl⟩ := mem_orderedCycles_iff.1 hmembers
  exact mem_orderedCycles_iff.2
    ⟨σ v, h.lt_size hv, (h.cyclic_iff hv).2 hcycle, (h.component_eq hv).symm⟩

theorem exists_of_mem_orderedCycles [ComponentFinder] (h : Embeds σ g g') {members : List Nat}
    (hmembers : members ∈ g'.orderedCycles) (hv : v < g.size) (hmem : σ v ∈ members) :
    ∃ own ∈ g.orderedCycles, members = own.map σ := by
  obtain ⟨w, _, hcycle, rfl⟩ := mem_orderedCycles_iff.1 hmembers
  have hmutual := (mem_component_iff.1 hmem).2
  have hcycle' := (h.cyclic_iff hv).1 (hmutual.symm.cyclic hcycle)
  refine ⟨g.component v, mem_orderedCycles_iff.2 ⟨v, hv, hcycle', rfl⟩, ?_⟩
  rw [← h.component_eq hv, component_eq_of_mem hmem]

/-! ## Paths -/

theorem eq_iff (h : Embeds σ g g') (hv : v < g.size) (hw : w < g.size) : σ v = σ w ↔ v = w :=
  ⟨h.injective hv hw, congrArg σ⟩

theorem pathTo_map (h : Embeds σ g g') {members candidates visited : List Nat} {start : Nat}
    (steps : Nat) (hmembers : ∀ w ∈ members, w < g.size) (hstart : start < g.size)
    (hcandidates : ∀ w ∈ candidates, w < g.size) (hvisited : ∀ w ∈ visited, w < g.size) :
    g'.pathTo (members.map σ) (σ start) steps (candidates.map σ) (visited.map σ) =
        ((g.pathTo members start steps candidates visited).1.map (List.map σ),
          (g.pathTo members start steps candidates visited).2.map σ) ∧
      ∀ w ∈ (g.pathTo members start steps candidates visited).2, w < g.size := by
  fun_induction g.pathTo members start steps candidates visited with
  | case1 steps visited =>
    rw [List.map_nil, pathTo.eq_def]
    exact ⟨rfl, hvisited⟩
  | case2 steps visited v vs hmember ih =>
    obtain ⟨hv, hvs⟩ := List.forall_mem_cons.1 hcandidates
    rw [List.map_cons, pathTo.eq_def]
    simp only [h.mem_map_iff hmembers hv, hmember]
    exact ih hvs hvisited
  | case3 steps visited vs hmember =>
    rw [List.map_cons, pathTo.eq_def]
    simp only [h.mem_map_iff hmembers hstart, hmember]
    exact ⟨rfl, hvisited⟩
  | case4 steps visited v vs hmember hne hseen ih =>
    obtain ⟨hv, hvs⟩ := List.forall_mem_cons.1 hcandidates
    rw [List.map_cons, pathTo.eq_def]
    simp only [h.mem_map_iff hmembers hv, h.eq_iff hv hstart, h.mem_map_iff hvisited hv, hmember,
      hne, hseen]
    exact ih hvs hvisited
  | case5 visited v vs hmember hne hseen =>
    obtain ⟨hv, hvs⟩ := List.forall_mem_cons.1 hcandidates
    rw [List.map_cons, pathTo.eq_def]
    simp only [h.mem_map_iff hmembers hv, h.eq_iff hv hstart, h.mem_map_iff hvisited hv, hmember,
      hne, hseen]
    exact ⟨rfl, hvisited⟩
  | case6 visited v vs hmember hne hseen steps path visited' heq ih =>
    obtain ⟨hv, hvs⟩ := List.forall_mem_cons.1 hcandidates
    obtain ⟨hbelow, hvisited'⟩ := ih (fun w hw => (lt_size_of_edge hw).2)
      (List.forall_mem_cons.2 ⟨hv, hvisited⟩)
    rw [heq] at hbelow hvisited'
    rw [List.map_cons, pathTo.eq_def]
    simp only [h.mem_map_iff hmembers hv, h.eq_iff hv hstart, h.mem_map_iff hvisited hv, hmember,
      hne, hseen, h.basesOf hv, ← List.map_cons, hbelow]
    exact ⟨rfl, hvisited'⟩
  | case7 visited v vs hmember hne hseen steps visited' heq ihbelow ihrest =>
    obtain ⟨hv, hvs⟩ := List.forall_mem_cons.1 hcandidates
    obtain ⟨hbelow, hvisited'⟩ := ihbelow (fun w hw => (lt_size_of_edge hw).2)
      (List.forall_mem_cons.2 ⟨hv, hvisited⟩)
    rw [heq] at hbelow hvisited'
    rw [List.map_cons, pathTo.eq_def]
    simp only [h.mem_map_iff hmembers hv, h.eq_iff hv hstart, h.mem_map_iff hvisited hv, hmember,
      hne, hseen, h.basesOf hv, ← List.map_cons, hbelow]
    exact ihrest hvs hvisited'

theorem cyclePath_map (h : Embeds σ g g') {members : List Nat} {start : Nat}
    (hmembers : ∀ w ∈ members, w < g.size) (hstart : start < g.size) :
    g'.cyclePath (members.map σ) (σ start) = (g.cyclePath members start).map σ := by
  have hbases : ∀ w ∈ g.basesOf start, w < g.size := fun w hw => (lt_size_of_edge hw).2
  have hsearch := (h.pathTo_map members.length hmembers hstart hbases
    (List.forall_mem_singleton.2 hstart)).1
  rw [List.map_singleton] at hsearch
  rw [cyclePath, cyclePath, h.basesOf hstart, List.length_map, List.map_cons, hsearch]
  cases (g.pathTo members start members.length (g.basesOf start) [start]).1 <;> rfl

end Embeds

end LookML.Extends.Graph
