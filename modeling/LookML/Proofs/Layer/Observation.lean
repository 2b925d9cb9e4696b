import LookML.Proofs.Layer.Lookup
/-!
# Observations of layers

What is observed of a layer is composed in the way layers are put on one another, and does not
change when a layer is passed on to an heir. Answers to questions are such observations, and so is
the order in which names first appear.
-/

namespace LookML

namespace Keyed

variable {α κ : Type} [DecidableEq κ]

def addNew (xs ys : List κ) : List κ :=
  xs ++ ys.filter (· ∉ xs)

theorem mem_addNew {xs ys : List κ} {k : κ} : k ∈ addNew xs ys ↔ k ∈ xs ∨ k ∈ ys := by
  simp only [addNew, List.mem_append, List.mem_filter, decide_eq_true_eq]
  by_cases h : k ∈ xs <;> simp [h]

instance : Std.Associative (addNew (κ := κ)) where
  assoc := by
    intro xs ys zs
    have hrest : (zs.filter (· ∉ ys)).filter (· ∉ xs) = zs.filter (· ∉ addNew xs ys) := by
      rw [List.filter_filter]
      apply List.filter_congr
      intro z _
      by_cases hx : z ∈ xs <;> by_cases hy : z ∈ ys <;> simp [mem_addNew, hx, hy]
    rw [addNew, ← hrest]
    simp [addNew]

instance : Std.IdempotentOp (addNew (κ := κ)) where
  idempotent := by
    intro xs
    simp [addNew]

theorem map_putAll {key : α → κ} {join : α → α → α}
    (h : ∀ y x, key y = key x → key (join y x) = key x) {xs : List α}
    (hxs : (xs.map key).Nodup) (ys : List α) :
    (putAll key join ys xs).map key = addNew (ys.map key) (xs.map key) := by
  induction xs generalizing ys with
  | nil => simp [putAll, addNew]
  | cons x xs ih =>
    obtain ⟨hx, hxs⟩ := List.nodup_cons.1 hxs
    have hstep : putAll key join ys (x :: xs) = putAll key join (put key join x ys) xs := rfl
    rw [hstep, ih hxs, map_put h]
    by_cases hold : key x ∈ ys.map key
    · rw [if_pos hold, addNew, addNew, List.map_cons, List.filter_cons_of_neg (by simpa using hold)]
    · rw [if_neg hold, addNew, addNew, List.map_cons, List.filter_cons_of_pos (by simpa using hold),
        List.append_assoc, List.singleton_append]
      congr 2
      apply List.filter_congr
      intro k hk
      have hne : k ≠ key x := fun heq => hx (heq ▸ hk)
      simp [hne]

end Keyed

namespace Layer

structure Observation {α : Type} (op : α → α → α) (unit : α) (f : Layer → α) : Prop where
  empty : f .empty = unit
  overlay : ∀ {bottom top : Layer}, top.Distinct → f (bottom.overlay top) = op (f bottom) (f top)
  bequeath : ∀ (base : Layer) (heir : EntityName), f (base.bequeath heir) = f base

variable {α : Type} {op : α → α → α} {unit : α} {f : Layer → α}

theorem Observation.foldl_overlay (hf : Observation op unit f) {tops : List Layer}
    (htops : ∀ top ∈ tops, top.Distinct) (bottom : Layer) :
    f (tops.foldl Layer.overlay bottom) = (tops.map f).foldl op (f bottom) := by
  induction tops generalizing bottom with
  | nil => rfl
  | cons top tops ih =>
    have hrest := fun t ht => htops t (List.mem_cons_of_mem top ht)
    rw [List.foldl_cons, ih hrest, hf.overlay (htops top List.mem_cons_self), List.map_cons,
      List.foldl_cons]

/-! ## Answers -/

def answerOnTop {β : Type} (bottom top : Option β) : Option β :=
  top.or bottom

instance {β : Type} : Std.Associative (answerOnTop (β := β)) where
  assoc := fun _ _ _ => Option.or_assoc.symm

instance {β : Type} : Std.IdempotentOp (answerOnTop (β := β)) where
  idempotent := fun _ => Option.or_self

theorem Lookup.observation {β : Type} {f : Layer → Option β} (hf : Lookup f)
    (hg : ∀ (base : Layer) (heir : EntityName), f (base.bequeath heir) = f base) :
    Observation answerOnTop none f where
  empty := hf.empty
  overlay := hf.overlay
  bequeath := hg

/-! ## Names in order -/

theorem observation_fieldNames :
    Observation Keyed.addNew [] fun l : Layer => l.fields.map Member.name where
  empty := rfl
  overlay := fun htop => Keyed.map_putAll (fun y x _ => name_replacing y x) htop.fields _
  bequeath := fun base heir => by simp [Layer.bequeath, Function.comp_def]

theorem observation_joinNames :
    Observation Keyed.addNew [] fun l : Layer => l.joins.map Member.name where
  empty := rfl
  overlay := fun htop => Keyed.map_putAll (fun y x _ => name_replacing y x) htop.joins _
  bequeath := fun base heir => by simp [Layer.bequeath, Function.comp_def]

theorem observation_otherKeys :
    Observation Keyed.addNew [] fun l : Layer => l.others.map otherKey where
  empty := rfl
  overlay := fun htop => Keyed.map_putAll (fun _ _ _ => rfl) htop.others _
  bequeath := fun _ _ => rfl

end Layer

end LookML
