import LookML.Proofs.Extends.Memo
/-!
# The calls of the walk

Every call of the walk is made for a definition on its own or for a base of the call before, with
what was kept so far. A base that is on the way is left out before the node itself is put on the
way. So the walk comes back to a node exactly if the node is its own base, and then once, right
after it has come to it; no link is followed twice on the way.
-/

namespace LookML.Extends

open Relation

/-- What is kept after the first nodes have been merged, as many as given. -/
def memoAfter (nodes : Array Node) (count : Nat) : Memo :=
  ((nodes.toList.zipIdx.take count).foldl (mergeNext nodes)
    ([], Array.replicate nodes.size none)).2

/-- The walk over all nodes is called for a node, with room for so many links, these nodes on the
way and this memo. -/
inductive Called (nodes : Array Node) : (room : Nat) → (above : List Nat) → Memo → Nat → Prop
  | alone {id : Nat} :
      id < nodes.size → Called nodes maxExtendsDepth [] (memoAfter nodes id) id
  | base {room id b : Nat} {above earlier later : List Nat} {memo : Memo} {node base : Node} :
      Called nodes (room + 1) above memo id → nodes[id]? = some node →
      (memo.get? id).filter (·.height ≤ room + 1) = none →
      node.basesOff above = earlier ++ b :: later → nodes[b]? = some base →
      Called nodes room (id :: above)
        (mergeBelow nodes room (id :: above) node earlier (.start node, memo)).2 b

/-- Each node of a way was new when the walk came to it, or it is its own base and the walk came
to it from itself. The last node stands first. -/
def IsWay (nodes : Array Node) : List Nat → Prop
  | [] => True
  | id :: above => IsWay nodes above ∧
      (id ∈ above → Link nodes id id ∧ ∃ rest, above = id :: rest ∧ id ∉ rest)

variable {nodes : Array Node} {room id b : Nat} {above : List Nat} {memo : Memo}

/-! ## Ways -/

theorem IsWay.base (h : IsWay nodes (id :: above)) {node : Node} (hid : nodes[id]? = some node)
    (hb : b ∈ node.basesOff above) : IsWay nodes (b :: id :: above) := by
  refine ⟨h, ?_⟩
  intro hmem
  have hoff : b ∉ above := by simpa using (List.mem_filter.1 hb).2
  rcases List.mem_cons.1 hmem with rfl | hmem
  · exact ⟨⟨node, hid, mem_of_mem_basesOff hb⟩, above, rfl, hoff⟩
  · exact absurd hmem hoff

/-- The links between the nodes of a way, the last one first, from heir to base. -/
def linksOf (way : List Nat) : List (Nat × Nat) :=
  way.tail.zip way

theorem IsWay.nodup_linksOf {way : List Nat} (h : IsWay nodes way) : (linksOf way).Nodup := by
  induction way with
  | nil => exact List.nodup_nil
  | cons id above ih =>
    cases above with
    | nil => exact List.nodup_nil
    | cons heir rest =>
      have hlinks : linksOf (id :: heir :: rest) = (heir, id) :: linksOf (heir :: rest) := rfl
      rw [hlinks, List.nodup_cons]
      refine ⟨?_, ih h.1⟩
      intro hmem
      obtain ⟨hheir, hid⟩ := List.of_mem_zip hmem
      -- The link could only have been followed before if its base was on the way before.
      obtain ⟨_, rest', hrest, hfresh⟩ := h.2 hid
      cases hrest
      exact hfresh hheir

theorem IsWay.count_le_two {way : List Nat} (h : IsWay nodes way) (v : Nat) :
    way.count v ≤ 2 := by
  induction way with
  | nil => simp
  | cons id above ih =>
    by_cases hid : id ∈ above
    · obtain ⟨_, rest, rfl, hfresh⟩ := h.2 hid
      by_cases hv : v = id
      · subst hv
        simp [List.count_eq_zero_of_not_mem hfresh]
      · simpa [List.count_cons_of_ne (Ne.symm hv)] using ih h.1
    · by_cases hv : v = id
      · subst hv
        simp [List.count_eq_zero_of_not_mem hid]
      · simpa [List.count_cons_of_ne (Ne.symm hv)] using ih h.1

/-! ## Calls -/

theorem Called.isWay (h : Called nodes room above memo id) : IsWay nodes (id :: above) := by
  induction h with
  | alone => exact ⟨trivial, fun hmem => by cases hmem⟩
  | base _ hid _ hbases _ ih =>
    refine ih.base hid ?_
    rw [hbases]
    exact List.mem_append_right _ List.mem_cons_self

theorem Called.link (h : Called nodes room above memo id) {a b : Nat}
    (hab : (a, b) ∈ linksOf (id :: above)) : Link nodes a b := by
  induction h with
  | alone => cases hab
  | @base room id _ above _ _ memo node base _ hid _ hbases _ ih =>
    rcases List.mem_cons.1 hab with heq | hab
    · cases heq
      have hb : b ∈ node.basesOff above := by
        rw [hbases]
        exact List.mem_append_right _ List.mem_cons_self
      exact ⟨node, hid, mem_of_mem_basesOff hb⟩
    · exact ih hab

theorem Called.room_add_length (h : Called nodes room above memo id) :
    room + above.length = maxExtendsDepth := by
  induction h with
  | alone => rfl
  | base _ _ _ _ _ ih =>
    rw [List.length_cons]
    omega

/-! ## What is kept -/

theorem memoAfter_sound (hn : Consistent nodes) (count : Nat) :
    (memoAfter nodes count).Sound nodes := by
  have hfold : ∀ (pairs : List (Node × Nat)) (state : List Merged × Memo),
      (∀ p ∈ pairs, nodes[p.2]? = some p.1) → state.2.Sound nodes →
      (pairs.foldl (mergeNext nodes) state).2.Sound nodes := by
    intro pairs
    induction pairs with
    | nil => exact fun _ _ h => h
    | cons p pairs ih =>
      intro state hpairs hstate
      have hnext := (transparent_merge hn maxExtendsDepth [] state.2 p.1 p.2 hstate
        (hpairs p List.mem_cons_self) (by simp)).2
      exact ih _ (fun q hq => hpairs q (List.mem_cons_of_mem p hq)) hnext
  refine hfold _ _ ?_ (Memo.sound_replicate _)
  intro p hp
  have hget := List.mk_mem_zipIdx_iff_getElem?.1 (List.mem_of_mem_take hp)
  rwa [Array.getElem?_toList] at hget

theorem Called.sound (hn : Consistent nodes) (h : Called nodes room above memo id) :
    memo.Sound nodes ∧ ∀ a ∈ above, TransGen (Link nodes) a id := by
  induction h with
  | alone => exact ⟨memoAfter_sound hn _, by simp⟩
  | @base room id b above earlier later memo node base _ hid _ hbases _ ih =>
    obtain ⟨hmemo, habove⟩ := ih
    have hway : ∀ c ∈ node.basesOff above, ∀ a ∈ id :: above, TransGen (Link nodes) a c := by
      intro c hc a ha
      have hlink : Link nodes id c := ⟨node, hid, mem_of_mem_basesOff hc⟩
      rcases List.mem_cons.1 ha with rfl | ha
      · exact .single hlink
      · exact (habove a ha).tail hlink
    rw [hbases] at hway
    refine ⟨?_, hway b (List.mem_append_right _ List.mem_cons_self)⟩
    exact (mergeBelow_spec (transparent_merge hn room)
      (fun c hc => hway c (List.mem_append_left _ hc)) (.start node) hmemo).2

theorem Memo.Sound.get?_eq_none (hn : Consistent nodes) (hmemo : memo.Sound nodes)
    (hcycle : TransGen (Link nodes) id id) : memo.get? id = none := by
  cases hget : memo.get? id with
  | none => rfl
  | some kept =>
    obtain ⟨node, hid, hcyclic, _⟩ := hmemo id kept hget
    rw [(hn.isCyclic_iff hid).2 hcycle] at hcyclic
    cases hcyclic

theorem Called.again (hn : Consistent nodes) (h : Called nodes (room + 1) above memo id)
    (hself : Link nodes id id) (hfresh : id ∉ above) :
    ∃ memo', Called nodes room (id :: above) memo' id := by
  obtain ⟨node, hid, hbase⟩ := hself
  have hoff : id ∈ node.basesOff above := List.mem_filter.2 ⟨hbase, by simpa using hfresh⟩
  obtain ⟨earlier, later, hbases⟩ := List.append_of_mem hoff
  have hnone := (h.sound hn).1.get?_eq_none hn (.single ⟨node, hid, hbase⟩)
  exact ⟨_, h.base hid (by rw [hnone]; rfl) hbases hid⟩

/-- What holds of every call: the depth is counted by the links on the way, none of which is
followed twice, and the node is on the way only if it is its own base and was come to from
itself, for the first time. -/
structure StraightCall (nodes : Array Node) (room : Nat) (above : List Nat) (id : Nat) : Prop where
  depth : room + (linksOf (id :: above)).length = maxExtendsDepth
  links : ∀ a b, (a, b) ∈ linksOf (id :: above) → Link nodes a b
  links_nodup : (linksOf (id :: above)).Nodup
  count_le_two : ∀ v, (id :: above).count v ≤ 2
  reentry : id ∈ above → Link nodes id id ∧ ∃ rest, above = id :: rest ∧ id ∉ rest

theorem Called.straight (h : Called nodes room above memo id) :
    StraightCall nodes room above id where
  depth := by
    have hlength : (linksOf (id :: above)).length = above.length := by simp [linksOf]
    rw [hlength]
    exact h.room_add_length
  links := fun _ _ => h.link
  links_nodup := h.isWay.nodup_linksOf
  count_le_two := h.isWay.count_le_two
  reentry := h.isWay.2

end LookML.Extends
