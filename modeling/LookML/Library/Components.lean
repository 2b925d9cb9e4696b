import LookML.Extends.Graph
/-!
# Finding components

Components are listed in the order in which a depth-first search leaves them. The search enters
the nodes in order of definition, and the bases of a node the last one first.
-/

namespace LookML.Extends

namespace Graph

open Relation (TransGen)

/-- The nodes that a search has entered, and those that it has left, the last one first. -/
structure Search where
  entered : List Nat
  left : List Nat

def Search.empty : Search := ⟨[], []⟩

/-- Enters `v` unless it was entered before, enters its bases, and leaves it. No path of newly
entered nodes is longer than `steps`. -/
def visit (g : Graph) : (steps : Nat) → Search → Nat → Search
  | 0, s, _ => s
  | steps + 1, s, v =>
    if v ∈ s.entered then s
    else
      let s := (g.basesOf v).reverse.foldl (g.visit steps) { s with entered := v :: s.entered }
      { s with left := v :: s.left }

def reached (g : Graph) (v : Nat) : List Nat :=
  (g.visit (g.size + 1) .empty v).entered

def leavingOrder (g : Graph) : List Nat :=
  ((List.range g.size).foldl (g.visit (g.size + 1)) .empty).left

/-- The nodes that lead to `v` and that `v` leads to, in order of definition. -/
def group (g : Graph) (v : Nat) : List Nat :=
  let forward := g.reached v
  (List.range g.size).filter fun w => w ∈ forward && v ∈ g.reached w

/-- The groups of some nodes, in the order in which they are met, without those of the nodes in
`seen`. -/
def groupsAmong (g : Graph) (seen : List Nat) : List Nat → List (List Nat)
  | [] => []
  | v :: vs =>
    if v ∈ seen then g.groupsAmong seen vs
    else g.group v :: g.groupsAmong (g.group v ++ seen) vs

/-- Every group once, in the order in which the search leaves the last node of each. -/
def groups (g : Graph) : List (List Nat) :=
  (g.groupsAmong [] g.leavingOrder).reverse

variable {g : Graph} {u v w : Nat}

theorem visit_succ (g : Graph) (steps : Nat) (s : Search) (h : v ∉ s.entered) :
    (g.visit (steps + 1) s v).entered =
      ((g.basesOf v).reverse.foldl (g.visit steps)
        { s with entered := v :: s.entered }).entered := by
  rw [visit, if_neg h]

theorem visit_of_mem (g : Graph) (steps : Nat) {s : Search} (h : v ∈ s.entered) :
    g.visit steps s v = s := by
  cases steps with
  | zero => rfl
  | succ steps => rw [visit, if_pos h]

/-! ## The search only ever enters -/

theorem entered_subset_foldl {f : Search → Nat → Search}
    (hf : ∀ s v, s.entered ⊆ (f s v).entered) (vs : List Nat) (s : Search) :
    s.entered ⊆ (vs.foldl f s).entered := by
  induction vs generalizing s with
  | nil => exact fun _ h => h
  | cons v vs ih => exact List.Subset.trans (hf s v) (ih (f s v))

theorem entered_subset_visit (g : Graph) (steps : Nat) (s : Search) (v : Nat) :
    s.entered ⊆ (g.visit steps s v).entered := by
  induction steps generalizing s v with
  | zero => exact fun _ h => h
  | succ steps ih =>
    by_cases h : v ∈ s.entered
    · rw [visit_of_mem g _ h]
      exact fun _ hw => hw
    · rw [visit_succ g steps s h]
      intro w hw
      apply entered_subset_foldl ih
      exact List.mem_cons_of_mem v hw

theorem mem_entered_visit (g : Graph) (steps : Nat) (s : Search) (v : Nat) :
    v ∈ (g.visit (steps + 1) s v).entered := by
  by_cases h : v ∈ s.entered
  · rwa [visit_of_mem g _ h]
  · rw [visit_succ g steps s h]
    apply entered_subset_foldl (entered_subset_visit g steps)
    exact List.mem_cons_self

def unentered (g : Graph) (s : Search) : Nat :=
  (List.range g.size).countP (· ∉ s.entered)

theorem unentered_le_of_subset (g : Graph) {s t : Search} (h : s.entered ⊆ t.entered) :
    g.unentered t ≤ g.unentered s := by
  apply List.countP_mono_left
  intro v _ hv
  simp only [decide_eq_true_eq] at hv ⊢
  exact fun hs => hv (h hs)

theorem unentered_cons_lt (g : Graph) (s : Search) (hv : v < g.size) (h : v ∉ s.entered) :
    g.unentered { s with entered := v :: s.entered } < g.unentered s := by
  have hsplit : (List.range g.size).filter (· ∉ v :: s.entered) =
      ((List.range g.size).filter (· ∉ s.entered)).filter (· ≠ v) := by
    rw [List.filter_filter]
    apply List.filter_congr
    intro w _
    simp only [List.mem_cons, not_or, ne_eq, Bool.decide_and]
  have hmem : v ∈ (List.range g.size).filter (· ∉ s.entered) := by simp [hv, h]
  unfold unentered
  rw [List.countP_eq_length_filter, List.countP_eq_length_filter, hsplit]
  exact List.length_filter_lt_length_iff_exists.2 ⟨v, hmem, by simp⟩

/-! ## What is entered is led to -/

def Leads (g : Graph) (v w : Nat) : Prop :=
  w = v ∨ TransGen g.Edge v w

theorem Leads.head (hedge : g.Edge u v) (h : g.Leads v w) : g.Leads u w := by
  rcases h with rfl | h
  · exact Or.inr (.single hedge)
  · exact Or.inr (.trans (.single hedge) h)

theorem Leads.trans (huv : g.Leads u v) (hvw : g.Leads v w) : g.Leads u w := by
  rcases huv with rfl | huv
  · exact hvw
  · rcases hvw with rfl | hvw
    · exact Or.inr huv
    · exact Or.inr (huv.trans hvw)

theorem Leads.lt_size (h : g.Leads v w) (hv : v < g.size) : w < g.size := by
  rcases h with rfl | h
  · exact hv
  · cases h with
    | single hedge => exact (lt_size_of_edge hedge).2
    | tail _ hedge => exact (lt_size_of_edge hedge).2

theorem leads_of_mem_foldl {f : Search → Nat → Search}
    (hf : ∀ s v, ∀ w ∈ (f s v).entered, w ∈ s.entered ∨ g.Leads v w) (vs : List Nat) (s : Search) :
    ∀ w ∈ (vs.foldl f s).entered, w ∈ s.entered ∨ ∃ v ∈ vs, g.Leads v w := by
  induction vs generalizing s with
  | nil => exact fun w hw => Or.inl hw
  | cons v vs ih =>
    intro w hw
    rcases ih _ w hw with hfirst | ⟨u, hu, huw⟩
    · rcases hf s v w hfirst with hs | hvw
      · exact Or.inl hs
      · exact Or.inr ⟨v, List.mem_cons_self, hvw⟩
    · exact Or.inr ⟨u, List.mem_cons_of_mem v hu, huw⟩

theorem leads_of_mem_visit (g : Graph) (steps : Nat) (s : Search) (v : Nat) :
    ∀ w ∈ (g.visit steps s v).entered, w ∈ s.entered ∨ g.Leads v w := by
  induction steps generalizing s v with
  | zero => exact fun w hw => Or.inl hw
  | succ steps ih =>
    intro w hw
    by_cases hv : v ∈ s.entered
    · rw [visit_of_mem g _ hv] at hw
      exact Or.inl hw
    · rw [visit_succ g steps s hv] at hw
      rcases leads_of_mem_foldl ih _ _ w hw with hw | ⟨b, hb, hbw⟩
      · rcases List.mem_cons.1 hw with rfl | hw
        · exact Or.inr (Or.inl rfl)
        · exact Or.inl hw
      · exact Or.inr (hbw.head (List.mem_reverse.1 hb))

/-! ## What is entered is left with all its bases entered -/

def Closed (g : Graph) (s t : Search) : Prop :=
  ∀ w ∈ t.entered, w ∉ s.entered → ∀ b ∈ g.basesOf w, b ∈ t.entered

theorem Closed.trans {s t r : Search} (hst : g.Closed s t) (htr : g.Closed t r)
    (hsub : t.entered ⊆ r.entered) : g.Closed s r := by
  intro w hw hs b hb
  by_cases ht : w ∈ t.entered
  · exact hsub (hst w ht hs b hb)
  · exact htr w hw ht b hb

theorem closed_foldl_visit {steps : Nat}
    (ih : ∀ (s : Search) (v : Nat), g.unentered s < steps → g.Closed s (g.visit steps s v))
    (vs : List Nat) (s : Search) (h : g.unentered s < steps) :
    g.Closed s (vs.foldl (g.visit steps) s) ∧
      ∀ v ∈ vs, v ∈ (vs.foldl (g.visit steps) s).entered := by
  induction vs generalizing s with
  | nil => exact ⟨fun w hw hs => absurd hw hs, by simp⟩
  | cons v vs ihvs =>
    have hsub := entered_subset_visit g steps s v
    have hfewer : g.unentered (g.visit steps s v) < steps :=
      Nat.lt_of_le_of_lt (unentered_le_of_subset g hsub) h
    obtain ⟨hclosed, hmem⟩ := ihvs _ hfewer
    have hrest := entered_subset_foldl (entered_subset_visit g steps) vs (g.visit steps s v)
    refine ⟨(ih s v h).trans hclosed hrest, ?_⟩
    intro w hw
    rcases List.mem_cons.1 hw with rfl | hw
    · obtain ⟨n, rfl⟩ := Nat.exists_eq_succ_of_ne_zero (Nat.ne_zero_of_lt h)
      exact hrest (mem_entered_visit g n s w)
    · exact hmem w hw

/-- The steps suffice because every step but the last enters one more node of the graph. -/
theorem closed_visit (g : Graph) (steps : Nat) (s : Search) (v : Nat)
    (h : g.unentered s < steps) : g.Closed s (g.visit steps s v) := by
  induction steps generalizing s v with
  | zero => omega
  | succ steps ih =>
    by_cases hv : v ∈ s.entered
    · rw [visit_of_mem g _ hv]
      exact fun w hw hs => absurd hw hs
    · intro w hw hs b hb
      rw [visit_succ g steps s hv] at hw ⊢
      by_cases hsize : v < g.size
      · have hfewer : g.unentered { s with entered := v :: s.entered } < steps := by
          have := unentered_cons_lt g s hsize hv
          omega
        obtain ⟨hclosed, hmem⟩ := closed_foldl_visit ih (g.basesOf v).reverse _ hfewer
        by_cases hwv : w = v
        · subst hwv
          exact hmem b (List.mem_reverse.2 hb)
        · exact hclosed w hw (by simp [hwv, hs]) b hb
      · -- Beyond the graph nothing has bases, so that only `v` itself was entered.
        have hnone : g.basesOf v = [] := List.eq_nil_iff_forall_not_mem.2
          fun c hc => hsize (lt_size_of_edge hc).1
        rw [hnone] at hw
        simp only [List.reverse_nil, List.foldl_nil, List.mem_cons, hs, or_false] at hw
        exact absurd (hw ▸ hb) (by simp [hnone])

theorem mem_reached_iff : w ∈ g.reached v ↔ g.Leads v w := by
  constructor
  · intro h
    rcases leads_of_mem_visit g _ _ v w h with h | h
    · cases h
    · exact h
  · have hself := mem_entered_visit g g.size .empty v
    have hsteps : g.unentered .empty < g.size + 1 := by
      have hle := List.countP_le_length (p := (· ∉ Search.empty.entered)) (l := List.range g.size)
      rw [List.length_range] at hle
      exact Nat.lt_succ_of_le hle
    have hclosed := closed_visit g (g.size + 1) .empty v hsteps
    rintro (rfl | h)
    · exact hself
    · induction h with
      | single hedge => exact hclosed _ hself (by simp [Search.empty]) _ hedge
      | tail _ hedge ih => exact hclosed _ ih (by simp [Search.empty]) _ hedge

/-! ## The search leaves what it enters -/

/-- The search goes from `s` to `t`, leaves whatever it enters on the way, and leaves nothing
else. -/
structure Leaves (s t : Search) : Prop where
  entered : s.entered ⊆ t.entered
  left : s.left ⊆ t.left
  left_of_entered : ∀ w ∈ t.entered, w ∈ s.entered ∨ w ∈ t.left
  entered_of_left : ∀ w ∈ t.left, w ∈ s.left ∨ w ∈ t.entered

theorem Leaves.refl (s : Search) : Leaves s s :=
  ⟨fun _ h => h, fun _ h => h, fun _ h => Or.inl h, fun _ h => Or.inl h⟩

theorem Leaves.trans {s t r : Search} (hst : Leaves s t) (htr : Leaves t r) : Leaves s r where
  entered := List.Subset.trans hst.entered htr.entered
  left := List.Subset.trans hst.left htr.left
  left_of_entered := by
    intro w hw
    rcases htr.left_of_entered w hw with ht | hr
    · exact (hst.left_of_entered w ht).imp_right (htr.left ·)
    · exact Or.inr hr
  entered_of_left := by
    intro w hw
    rcases htr.entered_of_left w hw with ht | hr
    · exact (hst.entered_of_left w ht).imp_right (htr.entered ·)
    · exact Or.inr hr

theorem leaves_foldl {f : Search → Nat → Search} (hf : ∀ s v, Leaves s (f s v)) (vs : List Nat)
    (s : Search) : Leaves s (vs.foldl f s) := by
  induction vs generalizing s with
  | nil => exact .refl s
  | cons v vs ih => exact (hf s v).trans (ih (f s v))

theorem leaves_visit (g : Graph) (steps : Nat) (s : Search) (v : Nat) :
    Leaves s (g.visit steps s v) := by
  induction steps generalizing s v with
  | zero => exact .refl s
  | succ steps ih =>
    by_cases hv : v ∈ s.entered
    · rw [visit_of_mem g _ hv]
      exact .refl s
    · have hbelow := leaves_foldl ih (g.basesOf v).reverse { s with entered := v :: s.entered }
      rw [visit, if_neg hv]
      refine ⟨fun w hw => hbelow.entered (List.mem_cons_of_mem v hw),
        fun w hw => List.mem_cons_of_mem v (hbelow.left hw), ?_, ?_⟩
      · intro w hw
        rcases hbelow.left_of_entered w hw with hs | hleft
        · rcases List.mem_cons.1 hs with rfl | hs
          · exact Or.inr List.mem_cons_self
          · exact Or.inl hs
        · exact Or.inr (List.mem_cons_of_mem v hleft)
      · intro w hw
        rcases List.mem_cons.1 hw with rfl | hw
        · exact Or.inr (hbelow.entered List.mem_cons_self)
        · exact hbelow.entered_of_left w hw

theorem mem_entered_foldl (g : Graph) (steps : Nat) {vs : List Nat} (s : Search) (hv : v ∈ vs) :
    v ∈ (vs.foldl (g.visit (steps + 1)) s).entered := by
  induction vs generalizing s with
  | nil => cases hv
  | cons u vs ih =>
    rcases List.mem_cons.1 hv with rfl | hv
    · have hrest := entered_subset_foldl (entered_subset_visit g (steps + 1)) vs
      exact hrest _ (mem_entered_visit g steps s v)
    · exact ih _ hv

theorem mem_leavingOrder_iff : v ∈ g.leavingOrder ↔ v < g.size := by
  have hleaves := leaves_foldl (leaves_visit g (g.size + 1)) (List.range g.size) .empty
  constructor
  · intro h
    rcases hleaves.entered_of_left v h with hempty | hentered
    · cases hempty
    · rcases leads_of_mem_foldl (leads_of_mem_visit g _) _ _ v hentered with hempty | ⟨u, hu, huv⟩
      · cases hempty
      · exact huv.lt_size (List.mem_range.1 hu)
  · intro hv
    rcases hleaves.left_of_entered v
      (mem_entered_foldl g g.size .empty (List.mem_range.2 hv)) with hempty | hleft
    · cases hempty
    · exact hleft

/-! ## The groups are the components -/

theorem mem_group_iff : w ∈ g.group v ↔ w < g.size ∧ g.Leads v w ∧ g.Leads w v := by
  simp only [group, List.mem_filter, List.mem_range, Bool.and_eq_true, decide_eq_true_eq,
    mem_reached_iff]

theorem mem_group_self (hv : v < g.size) : v ∈ g.group v :=
  mem_group_iff.2 ⟨hv, Or.inl rfl, Or.inl rfl⟩

theorem mem_group_of_mem (hu : u ∈ g.group v) (hw : w ∈ g.group v) : w ∈ g.group u := by
  obtain ⟨_, hvu, huv⟩ := mem_group_iff.1 hu
  obtain ⟨hsize, hvw, hwv⟩ := mem_group_iff.1 hw
  exact mem_group_iff.2 ⟨hsize, huv.trans hvw, hwv.trans hvu⟩

theorem mem_group_comm (hv : v < g.size) (h : w ∈ g.group v) : v ∈ g.group w :=
  mem_group_of_mem h (mem_group_self hv)

theorem exists_of_mem_groupsAmong {seen vs members : List Nat}
    (h : members ∈ g.groupsAmong seen vs) : ∃ v ∈ vs, v ∉ seen ∧ members = g.group v := by
  induction vs generalizing seen with
  | nil => cases h
  | cons u vs ih =>
    rw [groupsAmong] at h
    split at h
    · obtain ⟨v, hv, hseen, heq⟩ := ih h
      exact ⟨v, List.mem_cons_of_mem u hv, hseen, heq⟩
    · rename_i hu
      rcases List.mem_cons.1 h with rfl | h
      · exact ⟨u, List.mem_cons_self, hu, rfl⟩
      · obtain ⟨v, hv, hseen, heq⟩ := ih h
        exact ⟨v, List.mem_cons_of_mem u hv,
          fun hmem => hseen (List.mem_append_right _ hmem), heq⟩

theorem exists_group_of_mem (seen : List Nat) {vs : List Nat} (hlt : ∀ u ∈ vs, u < g.size) (hv : v ∈ vs)
    (hseen : v ∉ seen) : ∃ members ∈ g.groupsAmong seen vs, v ∈ members := by
  induction vs generalizing seen with
  | nil => cases hv
  | cons u vs ih =>
    have hrest := fun w hw => hlt w (List.mem_cons_of_mem u hw)
    rw [groupsAmong]
    split
    · rename_i hu
      rcases List.mem_cons.1 hv with rfl | hv
      · exact absurd hu hseen
      · exact ih seen hrest hv hseen
    · by_cases hmem : v ∈ g.group u
      · exact ⟨g.group u, List.mem_cons_self, hmem⟩
      · rcases List.mem_cons.1 hv with rfl | hv
        · exact absurd (mem_group_self (hlt v List.mem_cons_self)) hmem
        · obtain ⟨members, hmembers, hin⟩ := ih (g.group u ++ seen) hrest hv
            (by simp [hmem, hseen])
          exact ⟨members, List.mem_cons_of_mem _ hmembers, hin⟩

theorem pairwise_groupsAmong {seen vs : List Nat} (hlt : ∀ u ∈ vs, u < g.size) :
    (g.groupsAmong seen vs).Pairwise fun a b => ∀ v ∈ a, ∀ w ∈ b, v ≠ w := by
  induction vs generalizing seen with
  | nil => exact List.Pairwise.nil
  | cons u vs ih =>
    have hrest := fun w hw => hlt w (List.mem_cons_of_mem u hw)
    rw [groupsAmong]
    split
    · exact ih hrest
    · refine List.pairwise_cons.2 ⟨?_, ih hrest⟩
      intro members hmembers w hwu w' hw' heq
      obtain ⟨v, hv, hseen, rfl⟩ := exists_of_mem_groupsAmong hmembers
      subst heq
      have hvw := mem_group_comm (hrest v hv) hw'
      have huw := mem_group_comm (hlt u List.mem_cons_self) hwu
      exact hseen (List.mem_append_left _ (mem_group_of_mem huw hvw))

/-! ## Main statement -/

theorem mem_groups_iff {members : List Nat} :
    members ∈ g.groups ↔ members ∈ g.groupsAmong [] g.leavingOrder :=
  List.mem_reverse

theorem listsComponents_groups (g : Graph) : g.ListsComponents g.groups where
  nonempty := by
    intro h
    obtain ⟨v, hv, _, heq⟩ := exists_of_mem_groupsAmong (mem_groups_iff.1 h)
    have hself := mem_group_self (mem_leavingOrder_iff.1 hv)
    rw [← heq] at hself
    cases hself
  nodup := by
    refine List.pairwise_flatten.2 ⟨?_, ?_⟩
    · intro members h
      obtain ⟨v, _, _, rfl⟩ := exists_of_mem_groupsAmong (mem_groups_iff.1 h)
      exact List.nodup_range.sublist List.filter_sublist
    · rw [groups, List.pairwise_reverse]
      apply (pairwise_groupsAmong fun u => mem_leavingOrder_iff.1).imp
      exact fun h v hv w hw heq => h w hw v hv heq.symm
  mem_iff := by
    intro v
    rw [List.mem_flatten]
    constructor
    · rintro ⟨members, h, hv⟩
      obtain ⟨u, _, _, rfl⟩ := exists_of_mem_groupsAmong (mem_groups_iff.1 h)
      exact (mem_group_iff.1 hv).1
    · intro hv
      obtain ⟨members, hmembers, hin⟩ := exists_group_of_mem []
        (fun u => mem_leavingOrder_iff.1) (mem_leavingOrder_iff.2 hv) List.not_mem_nil
      exact ⟨members, mem_groups_iff.2 hmembers, hin⟩
  together := by
    intro members h v hv w hne
    obtain ⟨u, hu, _, rfl⟩ := exists_of_mem_groupsAmong (mem_groups_iff.1 h)
    constructor
    · intro hw
      obtain ⟨_, hvw, hwv⟩ := mem_group_iff.1 (mem_group_of_mem hv hw)
      exact ⟨hvw.resolve_left hne, hwv.resolve_left (Ne.symm hne)⟩
    · rintro ⟨hvw, hwv⟩
      have huv := mem_group_comm (mem_leavingOrder_iff.1 hu) hv
      have hlt := Leads.lt_size (Or.inr hvw) (mem_group_iff.1 hv).1
      exact mem_group_of_mem huv (mem_group_iff.2 ⟨hlt, Or.inr hvw, Or.inr hwv⟩)

end Graph

instance depthFirst : ComponentFinder where
  components := Graph.groups
  correct := Graph.listsComponents_groups

end LookML.Extends
