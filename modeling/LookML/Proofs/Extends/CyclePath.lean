import LookML.Proofs.Extends.Components
import Mathlib.Data.List.Chain
import Mathlib.Data.List.Nodup
/-!
# Paths around a cycle

The search for a path back to the start of a cycle never takes back which nodes it has entered.
It finds a path all the same: the nodes that it gave up lead, within the component, to nothing but
one another, and not to the start, which every node of the component leads to.
-/

namespace LookML.Extends.Graph

open Relation

variable {g : Graph} {members candidates visited : List Nat} {start steps v : Nat}

def unvisited (members visited : List Nat) : Nat :=
  (members.filter (· ∉ visited)).length

theorem unvisited_le_of_subset {visited visited' : List Nat} (h : visited ⊆ visited') :
    unvisited members visited' ≤ unvisited members visited := by
  apply List.Sublist.length_le
  apply List.monotone_filter_right
  intro v hv
  simp only [decide_eq_true_eq] at hv ⊢
  exact fun hs => hv (h hs)

theorem unvisited_cons_lt (hmember : v ∈ members) (hvisited : v ∉ visited) :
    unvisited members (v :: visited) < unvisited members visited := by
  have hsplit : members.filter (· ∉ v :: visited) =
      (members.filter (· ∉ visited)).filter (· ≠ v) := by
    rw [List.filter_filter]
    apply List.filter_congr
    intro w _
    simp only [List.mem_cons, not_or, ne_eq, Bool.decide_and]
  have hmem : v ∈ members.filter (· ∉ visited) := by
    simp [hmember, hvisited]
  unfold unvisited
  rw [hsplit]
  exact List.length_filter_lt_length_iff_exists.2 ⟨v, hmem, by simp⟩

/-! ## The order of the members -/

theorem pathTo_congr {members' : List Nat} (h : ∀ w, w ∈ members ↔ w ∈ members') :
    g.pathTo members start steps candidates visited =
      g.pathTo members' start steps candidates visited := by
  fun_induction g.pathTo members start steps candidates visited with
  | case1 => rw [pathTo.eq_def]
  | case2 steps visited v vs hmember ih =>
    rw [ih]
    conv_rhs => rw [pathTo.eq_def]
    simp only [← h v, hmember, not_false_eq_true, if_true]
  | case3 steps visited vs hmember =>
    conv_rhs => rw [pathTo.eq_def]
    simp only [← h start, hmember, if_false, if_true]
  | case4 steps visited v vs hmember hne hseen ih =>
    rw [ih]
    conv_rhs => rw [pathTo.eq_def]
    simp only [← h v, hmember, hne, hseen, if_false, if_true]
  | case5 visited v vs hmember hne hseen =>
    conv_rhs => rw [pathTo.eq_def]
    simp only [← h v, hmember, hne, hseen, if_false]
  | case6 visited v vs hmember hne hseen steps path visited' heq ih =>
    conv_rhs => rw [pathTo.eq_def]
    simp only [← h v, hmember, hne, hseen, if_false, ← ih, heq]
  | case7 visited v vs hmember hne hseen steps visited' heq ihbelow ihrest =>
    rw [ihrest]
    conv_rhs => rw [pathTo.eq_def]
    simp only [← h v, hmember, hne, hseen, if_false, ← ihbelow, heq]

theorem cyclePath_congr {members' : List Nat} (h : members.Perm members') (start : Nat) :
    g.cyclePath members start = g.cyclePath members' start := by
  rw [cyclePath, cyclePath, h.length_eq, pathTo_congr fun _ => h.mem_iff]

/-! ## What is found -/

/-- `path` leads from one of the candidates through members to the start and meets no node twice,
nor any but the start that was visited before. -/
structure LeadsBack (g : Graph) (members : List Nat) (start : Nat) (candidates visited : List Nat)
    (path : List Nat) : Prop where
  head : ∃ v ∈ candidates, path.head? = some v
  last : path.getLast? = some start
  chain : path.IsChain g.Edge
  members : ∀ v ∈ path, v ∈ members
  nodup : path.Nodup
  fresh : ∀ v ∈ path, v ≠ start → v ∉ visited

theorem LeadsBack.mono {candidates' visited' path : List Nat} (hcandidates : candidates ⊆ candidates')
    (hvisited : visited' ⊆ visited) (h : LeadsBack g members start candidates visited path) :
    LeadsBack g members start candidates' visited' path := by
  obtain ⟨v, hv, hhead⟩ := h.head
  exact ⟨⟨v, hcandidates hv, hhead⟩, h.last, h.chain, h.members, h.nodup,
    fun w hw hne hmem => h.fresh w hw hne (hvisited hmem)⟩

theorem LeadsBack.cons {path : List Nat} (hmember : v ∈ members) (hne : v ≠ start)
    (hvisited : v ∉ visited)
    (h : LeadsBack g members start (g.basesOf v) (v :: visited) path) :
    LeadsBack g members start (v :: candidates) visited (v :: path) := by
  obtain ⟨b, hb, hhead⟩ := h.head
  obtain ⟨rest, rfl⟩ : ∃ rest, path = b :: rest := by
    cases path with
    | nil => cases hhead
    | cons x rest =>
      rw [List.head?_cons, Option.some.injEq] at hhead
      exact ⟨rest, by rw [hhead]⟩
  refine ⟨⟨v, List.mem_cons_self, rfl⟩, ?_, List.isChain_cons_cons.2 ⟨hb, h.chain⟩, ?_, ?_, ?_⟩
  · rw [List.getLast?_cons_cons]
    exact h.last
  · intro w hw
    rcases List.mem_cons.1 hw with rfl | hw
    · exact hmember
    · exact h.members w hw
  · refine List.nodup_cons.2 ⟨?_, h.nodup⟩
    exact fun hv => h.fresh v hv hne List.mem_cons_self
  · intro w hw hstart hmem
    rcases List.mem_cons.1 hw with rfl | hw
    · exact hvisited hmem
    · exact h.fresh w hw hstart (List.mem_cons_of_mem v hmem)

theorem visited_subset_pathTo (g : Graph) (members : List Nat) (start steps : Nat)
    (candidates visited : List Nat) :
    visited ⊆ (g.pathTo members start steps candidates visited).2 := by
  fun_induction g.pathTo members start steps candidates visited with
  | case1 | case3 | case5 => exact fun _ h => h
  | case2 _ _ _ _ _ ih | case4 _ _ _ _ _ _ _ ih => exact ih
  | case6 visited v _ _ _ _ _ _ _ heq ih =>
    rw [heq] at ih
    exact fun w hw => ih (List.mem_cons_of_mem v hw)
  | case7 visited v _ _ _ _ _ _ heq ihbelow ihrest =>
    rw [heq] at ihbelow
    exact fun w hw => ihrest (ihbelow (List.mem_cons_of_mem v hw))

theorem leadsBack_of_pathTo {path : List Nat}
    (h : (g.pathTo members start steps candidates visited).1 = some path) :
    LeadsBack g members start candidates visited path := by
  fun_induction g.pathTo members start steps candidates visited generalizing path with
  | case1 | case5 => cases h
  | case2 _ _ v vs _ ih | case4 _ _ v vs _ _ _ ih =>
    exact (ih h).mono (List.subset_cons_self v vs) fun _ hw => hw
  | case3 _ visited vs hmember =>
    cases h
    refine ⟨⟨start, List.mem_cons_self, rfl⟩, rfl, .singleton start, ?_, List.nodup_singleton _, ?_⟩
    · simpa using hmember
    · intro w hw hne
      exact absurd (List.mem_singleton.1 hw) hne
  | case6 visited v vs hmember hne hvisited steps path' visited' heq ih =>
    cases h
    exact LeadsBack.cons (not_not.1 hmember) hne hvisited (ih (by rw [heq]))
  | case7 visited v vs hmember hne hvisited steps visited' heq _ ihrest =>
    have hsubset : v :: visited ⊆ visited' := by
      have hmono := visited_subset_pathTo g members start steps (g.basesOf v) (v :: visited)
      rwa [heq] at hmono
    exact (ihrest h).mono (List.subset_cons_self v vs)
      fun w hw => hsubset (List.mem_cons_of_mem v hw)

/-! ## What is given up -/

/-- All candidates among the members are in `exhausted`, none of them being the start, and so are
the bases of every node of `exhausted` that was not visited before. -/
structure GivenUp (g : Graph) (members : List Nat) (start : Nat)
    (candidates visited exhausted : List Nat) : Prop where
  candidates : ∀ v ∈ candidates, v ∈ members → v ≠ start ∧ v ∈ exhausted
  bases : ∀ w ∈ exhausted, w ∉ visited →
    ∀ b ∈ g.basesOf w, b ∈ members → b ≠ start ∧ b ∈ exhausted

/-- A search that fails has entered all members that it could, as the steps suffice for them. -/
theorem givenUp_of_pathTo (hsteps : unvisited members visited ≤ steps)
    (h : (g.pathTo members start steps candidates visited).1 = none) :
    GivenUp g members start candidates visited
      (g.pathTo members start steps candidates visited).2 := by
  fun_induction g.pathTo members start steps candidates visited with
  | case1 => exact ⟨fun v hv => absurd hv (List.not_mem_nil), fun w hw hs => absurd hw hs⟩
  | case2 steps visited v vs hmember ih =>
    obtain ⟨hcandidates, hbases⟩ := ih hsteps h
    refine ⟨?_, hbases⟩
    intro w hw hwmember
    rcases List.mem_cons.1 hw with rfl | hw
    · exact absurd hwmember hmember
    · exact hcandidates w hw hwmember
  | case3 | case6 => cases h
  | case4 steps visited v vs hmember hne hvisited ih =>
    obtain ⟨hcandidates, hbases⟩ := ih hsteps h
    refine ⟨?_, hbases⟩
    intro w hw hwmember
    rcases List.mem_cons.1 hw with rfl | hw
    · exact ⟨hne, visited_subset_pathTo _ _ _ _ _ _ hvisited⟩
    · exact hcandidates w hw hwmember
  | case5 visited v vs hmember hne hvisited =>
    have hfewer := unvisited_cons_lt (not_not.1 hmember) hvisited
    omega
  | case7 visited v vs hmember hne hvisited steps visited' heq ihbelow ihrest =>
    have hfewer := unvisited_cons_lt (not_not.1 hmember) hvisited
    have hbelow := ihbelow (by omega) (by rw [heq])
    have hsubset := visited_subset_pathTo g members start steps (g.basesOf v) (v :: visited)
    rw [heq] at hbelow hsubset
    change v :: visited ⊆ visited' at hsubset
    have hv : v ∈ visited' := hsubset List.mem_cons_self
    have hmono : unvisited members visited' ≤ unvisited members (v :: visited) :=
      unvisited_le_of_subset hsubset
    have hrest := ihrest (by omega) h
    have hgrow := visited_subset_pathTo g members start (steps + 1) vs visited'
    constructor
    · intro w hw hwmember
      rcases List.mem_cons.1 hw with rfl | hw
      · exact ⟨hne, hgrow hv⟩
      · exact hrest.candidates w hw hwmember
    · intro w hw hwvisited b hb hbmember
      by_cases hw' : w ∈ visited'
      · -- Entered below `v`, or `v` itself, whose bases were the candidates below it.
        by_cases hwv : w = v
        · subst hwv
          exact (hbelow.candidates b hb hbmember).imp_right (hgrow ·)
        · have hnew : w ∉ v :: visited := by simp [hwv, hwvisited]
          exact (hbelow.bases w hw' hnew b hb hbmember).imp_right (hgrow ·)
      · exact hrest.bases w hw hw' b hb hbmember

/-! ## Main statements -/

theorem isSome_pathTo (hstart : start < g.size) (hcycle : TransGen g.Edge start start) :
    (g.pathTo (g.component start) start (g.component start).length (g.basesOf start)
      [start]).1.isSome := by
  rw [Option.isSome_iff_ne_none]
  intro hnone
  have hsteps : unvisited (g.component start) [start] ≤ (g.component start).length :=
    List.length_filter_le _ _
  obtain ⟨hcandidates, hbases⟩ := givenUp_of_pathTo hsteps hnone
  have hmember : ∀ {b}, ReflTransGen g.Edge start b → ReflTransGen g.Edge b start →
      b ∈ g.component start :=
    fun hforth hback => mem_component_iff.2 ⟨lt_size_of_reaches hback hstart, hforth, hback⟩
  obtain ⟨b, hb, hback⟩ := TransGen.head'_iff.1 hcycle
  have hforth : ReflTransGen g.Edge start b := .single hb
  obtain ⟨hne, hgivenUp⟩ := hcandidates b hb (hmember hforth hback)
  -- From `b` the start is reached, but no base of a node that was given up is the start.
  clear hb
  induction hback using ReflTransGen.head_induction_on with
  | refl => exact hne rfl
  | head hbc hback ih =>
    have hforth' := hforth.tail hbc
    obtain ⟨hne', hgivenUp'⟩ := hbases _ hgivenUp (by simpa using hne) _ hbc
      (hmember hforth' hback)
    exact ih hforth' hne' hgivenUp'

theorem exists_cyclePath (hstart : start < g.size) (hcycle : TransGen g.Edge start start) :
    ∃ middle, g.cyclePath (g.component start) start = start :: (middle ++ [start]) ∧
      (start :: middle).Nodup ∧ (∀ v ∈ middle, v ∈ g.component start) ∧
      (g.cyclePath (g.component start) start).IsChain g.Edge := by
  obtain ⟨path, hpath⟩ := Option.isSome_iff_exists.1 (isSome_pathTo hstart hcycle)
  have hback := leadsBack_of_pathTo hpath
  have heq : g.cyclePath (g.component start) start = start :: path := by
    rw [cyclePath, hpath, Option.getD_some]
  obtain ⟨middle, hmiddle⟩ := List.getLast?_eq_some_iff.1 hback.last
  refine ⟨middle, by rw [heq, hmiddle], ?_, ?_, ?_⟩
  · have hnodup := hback.nodup
    rw [hmiddle, List.nodup_append] at hnodup
    refine List.nodup_cons.2 ⟨?_, hnodup.1⟩
    exact fun hmem => hnodup.2.2 start hmem start (List.mem_singleton_self start) rfl
  · intro v hv
    apply hback.members
    rw [hmiddle]
    exact List.mem_append_left _ hv
  · obtain ⟨b, hb, hhead⟩ := hback.head
    rw [heq]
    refine hback.chain.cons ?_
    intro c hc
    rw [hhead, Option.mem_some_iff] at hc
    exact hc ▸ hb

theorem mem_component_of_mem_cyclePath (hstart : start < g.size)
    (hcycle : TransGen g.Edge start start) (hv : v ∈ g.cyclePath (g.component start) start) :
    v ∈ g.component start := by
  obtain ⟨middle, heq, _, hmiddle, _⟩ := exists_cyclePath hstart hcycle
  rw [heq, List.mem_cons, List.mem_append, List.mem_singleton] at hv
  rcases hv with rfl | hv | rfl
  · exact mem_component_self hstart
  · exact hmiddle v hv
  · exact mem_component_self hstart

end LookML.Extends.Graph
