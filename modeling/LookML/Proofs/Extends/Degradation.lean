import LookML.Proofs.Extends.Inheritance
/-!
# What is missing from a merged node

A node is merged in full, with nothing wrong and nothing cut, exactly when its chains fit and
nothing is wrong with any node that it leads to. What is wrong with one node is passed on to all
its heirs.
-/

namespace LookML.Extends

open Relation

variable {nodes : Array Node}

def Flawless (nodes : Array Node) (id : Nat) : Prop :=
  ∀ w, ReflTransGen (Link nodes) id w → ∀ node : Node, nodes[w]? = some node → node.reasons = []

theorem Flawless.base {id b : Nat} (h : Flawless nodes id) (hb : Link nodes id b) :
    Flawless nodes b :=
  fun w hw => h w (.head hb hw)

theorem flawless_iff {id : Nat} {node : Node} (hid : nodes[id]? = some node) :
    Flawless nodes id ↔ node.reasons = [] ∧ ∀ b ∈ node.bases, Flawless nodes b := by
  constructor
  · intro h
    exact ⟨h id .refl node hid, fun b hb => h.base ⟨node, hid, hb⟩⟩
  · rintro ⟨hown, hbases⟩ w hw other hother
    rcases ReflTransGen.cases_head hw with rfl | ⟨b, ⟨heir, hheir, hb⟩, hbw⟩
    · rw [hid] at hother
      exact Option.some.inj hother ▸ hown
    · rw [hid] at hheir
      cases hheir
      exact hbases b hb w hbw other hother

/-! ## Reasons are passed on -/

theorem reasons_addBase_eq_nil {node base : Node} {m below : Merged} :
    (m.addBase node base below).reasons = [] ↔ m.reasons = [] ∧ below.reasons = [] := by
  unfold Merged.addBase
  dsimp only
  split
  · rename_i h
    rw [Bool.or_eq_true, List.isEmpty_iff, decide_eq_true_eq] at h
    constructor
    · intro hm
      rw [hm] at h
      exact ⟨hm, h.resolve_right List.not_mem_nil⟩
    · exact And.left
  · rename_i h
    rw [Bool.or_eq_true, not_or, List.isEmpty_iff] at h
    simp [h.1]

section MergeOnto

variable {node : Node} {below : Node → Nat → Merged}

theorem reasons_mergeOnto_eq_nil {bases : List Nat} {m : Merged} :
    (mergeOnto nodes node below bases m).reasons = [] ↔
      m.reasons = [] ∧
        ∀ b ∈ bases, ∀ base, nodes[b]? = some base → (below base b).reasons = [] := by
  induction bases generalizing m with
  | nil => simp
  | cons b bases ih =>
    cases hbase : nodes[b]? with
    | none =>
      rw [mergeOnto_cons_none hbase, ih]
      simp [hbase]
    | some base =>
      rw [mergeOnto_cons hbase, ih, reasons_addBase_eq_nil]
      simp [hbase, and_assoc]

end MergeOnto

/-! ## Merging in full -/

theorem Flawless.reasons_eq_nil {id : Nat} (h : Flawless nodes id) {node : Node}
    (hid : nodes[id]? = some node) (room : Nat) (above : List Nat) :
    (mergeAfresh nodes room above node id).reasons = [] := by
  induction room generalizing above node id with
  | zero => exact h id .refl node hid
  | succ room ih =>
    apply reasons_mergeOnto_eq_nil.2
    refine ⟨h id .refl node hid, ?_⟩
    intro b hb base hbase
    exact ih (h.base ⟨node, hid, mem_of_mem_basesOff hb⟩) hbase (id :: above)

theorem chainsFit_and_flawless (hn : Consistent nodes)
    (hcyclic : ∀ {id : Nat} {node : Node}, nodes[id]? = some node → node.isCyclic = true →
      node.reasons ≠ [])
    {room id : Nat} {node : Node} (hid : nodes[id]? = some node)
    (hreasons : (mergeAfresh nodes room [] node id).reasons = [])
    (htruncated : (mergeAfresh nodes room [] node id).truncated = false) :
    ChainsFit nodes room id ∧ Flawless nodes id := by
  induction room generalizing node id with
  | zero =>
    have hbases : node.bases = [] := by
      simpa [mergeAfresh, Merged.finish, Node.basesOff] using htruncated
    constructor
    · rintro (_ | ⟨b, chain⟩) hchain
      · exact Nat.le_refl 0
      · obtain ⟨⟨heir, hheir, hb⟩, _⟩ := List.isChain_cons_cons.1 hchain
        rw [hid] at hheir
        cases hheir
        rw [hbases] at hb
        cases hb
    · exact (flawless_iff hid).2 ⟨hreasons, by simp [hbases]⟩
  | succ room ih =>
    have hall : node.basesOff [] = node.bases := by simp [Node.basesOff]
    rw [mergeAfresh, hall] at hreasons htruncated
    obtain ⟨hown, hbelow⟩ := reasons_mergeOnto_eq_nil.1 hreasons
    have hcut := (truncated_mergeOnto.1 htruncated).2
    have hround : ¬ TransGen (Link nodes) id id := by
      intro hcycle
      exact hcyclic hid ((hn.isCyclic_iff hid).2 hcycle) hown
    have hbase : ∀ b ∈ node.bases, ChainsFit nodes room b ∧ Flawless nodes b := by
      intro b hb
      obtain ⟨base, hbase⟩ := hn.exists_base hid hb
      -- The way to the base plays no part, as the base does not lead back to the node.
      have hway : mergeAfresh nodes room [id] base b = mergeAfresh nodes room [] base b := by
        apply mergeAfresh_above hbase
        intro c hc
        have hne : c ≠ id := by
          rintro rfl
          exact hround (.head ⟨node, hid, hb⟩ hc)
        simp [hne]
      exact ih hbase (hway ▸ hbelow b hb base hbase) (hway ▸ hcut b hb base hbase)
    constructor
    · rintro (_ | ⟨b, chain⟩) hchain
      · exact Nat.zero_le _
      · obtain ⟨⟨heir, hheir, hb⟩, hrest⟩ := List.isChain_cons_cons.1 hchain
        rw [hid] at hheir
        cases hheir
        exact Nat.succ_le_succ ((hbase b hb).1 chain hrest)
    · exact (flawless_iff hid).2 ⟨hown, fun b hb => (hbase b hb).2⟩

end LookML.Extends
