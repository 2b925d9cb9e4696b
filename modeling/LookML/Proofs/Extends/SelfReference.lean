import LookML.Proofs.Extends.Observation
import LookML.Proofs.Layer.Trail
import Mathlib.Data.List.Flatten
/-!
# Nodes that are their own bases

A node that is its own base is merged once more below itself, as it would be merged without. What
that adds comes from layers that are merged anyway, so it leaves no mark on answers and on the
order of names, and repeats places in trails. All this holds where nothing is cut.
-/

namespace LookML.Extends

open Layer

/-! ## Values put in between -/

/-- The second list is the first one with `x` put in, any number of times and anywhere. -/
inductive PaddedWith {α : Type} (x : α) : List α → List α → Prop
  | nil : PaddedWith x [] []
  | keep {y : α} {l m : List α} : PaddedWith x l m → PaddedWith x (y :: l) (y :: m)
  | pad {l m : List α} : PaddedWith x l m → PaddedWith x l (x :: m)

section PaddedWith

variable {α : Type} {x : α} {l m : List α}

theorem PaddedWith.refl (x : α) (l : List α) : PaddedWith x l l := by
  induction l with
  | nil => exact .nil
  | cons _ _ ih => exact ih.keep

theorem PaddedWith.append_singleton (h : PaddedWith x l m) (y : α) :
    PaddedWith x (l ++ [y]) (m ++ [y]) := by
  induction h with
  | nil => exact .refl x [y]
  | keep _ ih => exact ih.keep
  | pad _ ih => exact ih.pad

theorem PaddedWith.sublist (h : PaddedWith x l m) : l.Sublist m := by
  induction h with
  | nil => exact .slnil
  | keep _ ih => exact ih.cons_cons _
  | pad _ ih => exact ih.cons x

theorem op_foldl_self (op : α → α → α) [Std.Associative op] [Std.IdempotentOp op] (acc : α)
    (l : List α) : op acc (l.foldl op acc) = l.foldl op acc := by
  have hidem : op acc acc = acc := Std.IdempotentOp.idempotent acc
  have hstep : l.foldl op (op acc acc) = op acc (l.foldl op acc) := List.foldl_assoc
  rw [← hstep, hidem]

theorem foldl_foldl_self (op : α → α → α) [Std.Associative op] [Std.IdempotentOp op] (acc : α)
    (l : List α) :
    l.foldl op (l.foldl op acc) = l.foldl op acc := by
  cases l with
  | nil => rfl
  | cons y l =>
    have hhead : ∀ a, (y :: l).foldl op a = op a (l.foldl op y) := fun a => List.foldl_assoc
    have hassoc : ∀ a b c : α, op (op a b) c = op a (op b c) := Std.Associative.assoc
    have hidem : ∀ a : α, op a a = a := Std.IdempotentOp.idempotent
    rw [hhead acc, hhead, hassoc, hidem]

theorem PaddedWith.foldl_eq {op : α → α → α} [Std.Associative op] [Std.IdempotentOp op]
    (h : PaddedWith x l m) {acc : α} (hx : l.foldl op acc = x) : m.foldl op acc = x := by
  induction h generalizing acc with
  | nil => exact hx
  | keep _ ih => exact ih hx
  | pad _ ih =>
    apply ih
    rw [← hx, op_foldl_self op, foldl_foldl_self op]

/-- `r` relates what a fold yields with its own value put in between to what it yields without. -/
structure Collapses (op : α → α → α) (unit : α) (r : α → α → Prop) : Prop where
  refl : ∀ a, r a a
  trans : ∀ {a b c}, r a b → r b c → r a c
  congr : ∀ {a a' b b'}, r a a' → r b b' → r (op a b) (op a' b')
  padded : ∀ {l m : List α}, PaddedWith (l.foldl op unit) l m → r (m.foldl op unit) (l.foldl op unit)

theorem collapses_eq (op : α → α → α) [Std.Associative op] [Std.IdempotentOp op] (unit : α) :
    Collapses op unit Eq where
  refl := fun _ => rfl
  trans := Eq.trans
  congr := by rintro a _ b _ rfl rfl; rfl
  padded := fun h => h.foldl_eq rfl

theorem collapses_sublist (β : Type) :
    Collapses (α := List β) (· ++ ·) [] fun long short => short.Sublist long where
  refl := List.Sublist.refl
  trans := fun h h' => h'.trans h
  congr := List.Sublist.append
  padded := by
    intro l m h
    rw [foldl_append_eq_flatten, foldl_append_eq_flatten]
    exact List.Sublist.flatten h.sublist

theorem Collapses.foldl {op : α → α → α} {unit : α} {r : α → α → Prop} (hr : Collapses op unit r)
    {l l' : List α} (h : List.Forall₂ r l l') {a a' : α} (ha : r a a') :
    r (l.foldl op a) (l'.foldl op a') := by
  induction h generalizing a a' with
  | nil => exact ha
  | cons hb _ ih => exact ih (hr.congr ha hb)

end PaddedWith

/-! ## Without the reference -/

/-- The nodes with and without the references of the node `loop` to itself. -/
structure WithoutSelf (loop : Nat) (nodes nodes' : Array Node) : Prop where
  size_eq : nodes'.size = nodes.size
  bases : ∀ {id : Nat} {node node' : Node}, nodes[id]? = some node → nodes'[id]? = some node' →
    node'.bases = if id = loop then node.bases.filter (· ≠ loop) else node.bases

namespace WithoutSelf

variable {loop : Nat} {nodes nodes' : Array Node}

theorem exists_node (h : WithoutSelf loop nodes nodes') {id : Nat} {node : Node}
    (hid : nodes[id]? = some node) : ∃ node', nodes'[id]? = some node' := by
  obtain ⟨hlt, _⟩ := Array.getElem?_eq_some_iff.1 hid
  exact ⟨_, Array.getElem?_eq_getElem (h.size_eq ▸ hlt)⟩

theorem eq_none_iff (h : WithoutSelf loop nodes nodes') (id : Nat) :
    nodes'[id]? = none ↔ nodes[id]? = none := by
  rw [Array.getElem?_eq_none_iff, Array.getElem?_eq_none_iff, h.size_eq]

theorem basesOff (h : WithoutSelf loop nodes nodes') {id : Nat} {node node' : Node}
    (hid : nodes[id]? = some node) (hid' : nodes'[id]? = some node') (above : List Nat) :
    node'.basesOff above =
      if id = loop then (node.basesOff above).filter (· ≠ loop) else node.basesOff above := by
  unfold Node.basesOff
  rw [h.bases hid hid']
  split
  · rw [List.filter_filter, List.filter_filter]
    simp only [Bool.and_comm]
  · rfl

theorem mem_basesOff (h : WithoutSelf loop nodes nodes') {id b : Nat} {node node' : Node}
    {above : List Nat} (hid : nodes[id]? = some node) (hid' : nodes'[id]? = some node')
    (hb : b ∈ node'.basesOff above) : b ∈ node.basesOff above := by
  rw [h.basesOff hid hid'] at hb
  split at hb
  · exact List.mem_of_mem_filter hb
  · exact hb

section Observe

variable {α : Type} {op : α → α → α} {unit : α} {r : α → α → Prop} {f : Layer → α}

theorem padded_observedBases {room : Nat} {above bases : List Nat} {x : α}
    (hself : ∀ base, nodes[loop]? = some base → f (mergeAfresh nodes room above base loop).layer = x) :
    PaddedWith x (observedBases nodes f room above (bases.filter (· ≠ loop)))
      (observedBases nodes f room above bases) := by
  induction bases with
  | nil => exact .nil
  | cons b bases ih =>
    by_cases hb : b = loop
    · subst hb
      rw [List.filter_cons_of_neg (by simp)]
      cases hbase : nodes[b]? with
      | none =>
        rw [observedBases_cons_none hbase]
        exact ih
      | some base =>
        rw [observedBases_cons hbase, hself base hbase]
        exact ih.pad
    · rw [List.filter_cons_of_pos (by simpa using hb)]
      cases hbase : nodes[b]? with
      | none =>
        rw [observedBases_cons_none hbase, observedBases_cons_none hbase]
        exact ih
      | some base =>
        rw [observedBases_cons hbase, observedBases_cons hbase]
        exact ih.keep

variable (hn : Consistent nodes) (hf : Observation op unit f) (hr : Collapses op unit r)
  (hown : ∀ {id : Nat} {node : Node}, nodes[id]? = some node → node.own.Distinct)
include hn hf hr hown

/-- Merged once more below itself, a node yields what it would yield without its references to
itself, and that is swallowed. -/
theorem collapse {room : Nat} {above : List Nat} {node : Node} (hid : nodes[loop]? = some node)
    (huncut : (mergeAfresh nodes (room + 1) above node loop).truncated = false) :
    r (f (mergeAfresh nodes (room + 1) above node loop).layer)
      (op ((observedBases nodes f room (loop :: above)
        ((node.basesOff above).filter (· ≠ loop))).foldl op unit) (f node.own)) := by
  have hbelow := (truncated_mergeOnto.1 huncut).2
  let without := observedBases nodes f room (loop :: above) ((node.basesOff above).filter (· ≠ loop))
  have hwith : f (mergeAfresh nodes (room + 1) above node loop).layer =
      (observedBases nodes f room (loop :: above) (node.basesOff above) ++ [f node.own]).foldl op
        unit := by
    rw [observe_mergeAfresh_succ hf (hown hid), List.foldl_append]
    rfl
  have hwithout : op (without.foldl op unit) (f node.own) =
      (without ++ [f node.own]).foldl op unit := by
    rw [List.foldl_append]
    rfl
  by_cases hself : loop ∈ node.basesOff above
  · have hagain : ∀ base, nodes[loop]? = some base →
        f (mergeAfresh nodes room (loop :: above) base loop).layer =
          (without ++ [f node.own]).foldl op unit := by
      intro base hbase
      rw [hid] at hbase
      cases hbase
      have hoff : node.basesOff (loop :: above) = (node.basesOff above).filter (· ≠ loop) := by
        unfold Node.basesOff
        rw [List.filter_filter]
        apply List.filter_congr
        intro b _
        simp [not_or]
      rw [observe_of_not_truncated hf hn (hown hid) (hbelow loop hself node hid), hoff, ← hwithout]
      congr 2
      apply observedBases_congr
      intro b _
      apply Option.map_congr
      intro base hbase
      have hway : ∀ c, c ∈ loop :: loop :: above ↔ c ∈ loop :: above := by simp
      rw [mergeAfresh_above hbase fun c _ => hway c]
    rw [hwith, hwithout]
    exact hr.padded ((padded_observedBases hagain).append_singleton _)
  · have hsame : (node.basesOff above).filter (· ≠ loop) = node.basesOff above := by
      apply List.filter_eq_self.2
      intro b hb
      have hne : b ≠ loop := fun heq => hself (heq ▸ hb)
      simpa using hne
    rw [hsame, observe_mergeAfresh_succ hf (hown hid)]
    exact hr.refl _

omit hn hf hr hown in
theorem forall₂_observedBases (h : WithoutSelf loop nodes nodes') {room : Nat}
    {above bases : List Nat}
    (hbases : ∀ b ∈ bases, ∀ base base' : Node, nodes[b]? = some base → nodes'[b]? = some base' →
      r (f (mergeAfresh nodes room above base b).layer)
        (f (mergeAfresh nodes' room above base' b).layer)) :
    List.Forall₂ r (observedBases nodes f room above bases)
      (observedBases nodes' f room above bases) := by
  induction bases with
  | nil => exact .nil
  | cons b bases ih =>
    have hrest := ih fun c hc => hbases c (List.mem_cons_of_mem b hc)
    cases hbase : nodes[b]? with
    | none =>
      rw [observedBases_cons_none hbase, observedBases_cons_none ((h.eq_none_iff b).2 hbase)]
      exact hrest
    | some base =>
      obtain ⟨base', hbase'⟩ := h.exists_node hbase
      rw [observedBases_cons hbase, observedBases_cons hbase']
      exact .cons (hbases b List.mem_cons_self base base' hbase hbase') hrest

/-- Where nothing is cut, the references of one node to itself make no difference but what `r`
allows. -/
theorem related (h : WithoutSelf loop nodes nodes')
    (hown' : ∀ {id : Nat} {node node' : Node}, nodes[id]? = some node → nodes'[id]? = some node' →
      node'.own.Distinct ∧ f node'.own = f node.own)
    {room id : Nat} {above : List Nat} {node node' : Node} (hid : nodes[id]? = some node)
    (hid' : nodes'[id]? = some node')
    (huncut : (mergeAfresh nodes room above node id).truncated = false) :
    r (f (mergeAfresh nodes room above node id).layer)
      (f (mergeAfresh nodes' room above node' id).layer) := by
  induction room generalizing above id node node' with
  | zero =>
    obtain ⟨hdistinct, hsame⟩ := hown' hid hid'
    rw [observe_mergeAfresh_zero hf (hown hid), observe_mergeAfresh_zero hf hdistinct, hsame]
    exact hr.refl _
  | succ room ih =>
    obtain ⟨hdistinct, hsame⟩ := hown' hid hid'
    have hbelow := (truncated_mergeOnto.1 huncut).2
    have hwithout : r (f (mergeAfresh nodes (room + 1) above node id).layer)
        (op ((observedBases nodes f room (id :: above) (node'.basesOff above)).foldl op unit)
          (f node.own)) := by
      rw [h.basesOff hid hid']
      split
      · rename_i hloop
        subst hloop
        exact collapse hn hf hr hown hid huncut
      · rw [observe_mergeAfresh_succ hf (hown hid)]
        exact hr.refl _
    have hbases : List.Forall₂ r (observedBases nodes f room (id :: above) (node'.basesOff above))
        (observedBases nodes' f room (id :: above) (node'.basesOff above)) := by
      apply h.forall₂_observedBases
      intro b hb base base' hbase hbase'
      exact ih hbase hbase' (hbelow b (h.mem_basesOff hid hid' hb) base hbase)
    rw [observe_mergeAfresh_succ hf hdistinct, hsame]
    exact hr.trans hwithout (hr.congr (hr.foldl hbases (hr.refl unit)) (hr.refl _))

end Observe

theorem truncated_eq_false (h : WithoutSelf loop nodes nodes') {room id : Nat} {above : List Nat}
    {node node' : Node} (hid : nodes[id]? = some node) (hid' : nodes'[id]? = some node')
    (huncut : (mergeAfresh nodes room above node id).truncated = false) :
    (mergeAfresh nodes' room above node' id).truncated = false := by
  induction room generalizing above id node node' with
  | zero =>
    have hbases : node.basesOff above = [] := by
      simpa [mergeAfresh, Merged.finish] using huncut
    have hbases' : node'.basesOff above = [] := by
      apply List.eq_nil_iff_forall_not_mem.2
      intro b hb
      have hmem := h.mem_basesOff hid hid' hb
      rw [hbases] at hmem
      cases hmem
    simp [mergeAfresh, Merged.finish, hbases']
  | succ room ih =>
    have hbelow := (truncated_mergeOnto.1 huncut).2
    refine truncated_mergeOnto.2 ⟨rfl, ?_⟩
    intro b hb base' hbase'
    cases hbase : nodes[b]? with
    | none =>
      rw [(h.eq_none_iff b).2 hbase] at hbase'
      cases hbase'
    | some base => exact ih hbase hbase' (hbelow b (h.mem_basesOff hid hid' hb) base hbase)

end WithoutSelf

end LookML.Extends
