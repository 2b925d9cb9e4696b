import Mathlib.Data.List.Perm.Basic
import Mathlib.Order.Compare
/-!
# Sorting by a comparison

Where things that compare equal are equal, a sorted list depends on what is sorted and not on the
order in which it was found.
-/

namespace LookML

open Std

variable {α β : Type} {c : β → β → Ordering}

theorem transCmp_on (h : TransCmp c) (f : α → β) : TransCmp fun a b => c (f a) (f b) where
  eq_swap := h.eq_swap
  isLE_trans := h.isLE_trans

theorem pairwise_mergeSort_isLE [TransCmp c] (l : List β) :
    (l.mergeSort fun a b => (c a b).isLE).Pairwise fun a b => (c a b).isLE := by
  apply List.pairwise_mergeSort
  · intro x y z hxy hyz
    exact TransCmp.isLE_trans hxy hyz
  · intro x y
    have hswap : c y x = (c x y).swap := OrientedCmp.eq_swap
    rw [hswap]
    cases c x y <;> rfl

theorem map_mergeSort_eq_of_perm [TransCmp c] (hc : ∀ a b, c a b = .eq → a = b) (f : α → β)
    {l l' : List α} (h : (l.map f).Perm (l'.map f)) :
    (l.mergeSort fun a b => (c (f a) (f b)).isLE).map f =
      (l'.mergeSort fun a b => (c (f a) (f b)).isLE).map f := by
  have hon : TransCmp fun a b => c (f a) (f b) := transCmp_on inferInstance f
  have hsorted (m : List α) :
      ((m.mergeSort fun a b => (c (f a) (f b)).isLE).map f).Pairwise fun a b => (c a b).isLE :=
    List.pairwise_map.2 (pairwise_mergeSort_isLE m)
  have hperm (m : List α) :
      ((m.mergeSort fun a b => (c (f a) (f b)).isLE).map f).Perm (m.map f) :=
    (List.mergeSort_perm m _).map f
  refine (((hperm l).trans h).trans (hperm l').symm).eq_of_pairwise ?_ (hsorted l) (hsorted l')
  intro a b _ _ hab hba
  exact hc a b (OrientedCmp.isLE_antisymm hab hba)

end LookML
