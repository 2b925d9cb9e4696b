import Mathlib.Data.List.Perm.Basic
/-!
# Lists split in two

A list is split in two if each of its elements goes to one part or the other and both parts keep
its order.
-/

namespace LookML

variable {α β : Type}

/-- The list is split into two parts that keep its order. -/
inductive Split : List α → List α → List α → Prop
  | nil : Split [] [] []
  | first {whole first second : List α} (x : α) :
      Split whole first second → Split (x :: whole) (x :: first) second
  | second {whole first second : List α} (x : α) :
      Split whole first second → Split (x :: whole) first (x :: second)

namespace Split

variable {whole first second : List α}

theorem swap (h : Split whole first second) : Split whole second first := by
  induction h with
  | nil => exact .nil
  | first x _ ih => exact .second x ih
  | second x _ ih => exact .first x ih

theorem perm (h : Split whole first second) : whole.Perm (first ++ second) := by
  induction h with
  | nil => exact .refl _
  | first x _ ih => exact ih.cons x
  | second x _ ih => exact (ih.cons x).trans List.perm_middle.symm

theorem mem_iff (h : Split whole first second) {x : α} :
    x ∈ whole ↔ x ∈ first ∨ x ∈ second := by
  rw [h.perm.mem_iff, List.mem_append]

theorem sublist (h : Split whole first second) : first.Sublist whole := by
  induction h with
  | nil => exact .slnil
  | first x _ ih => exact ih.cons_cons x
  | second x _ ih => exact ih.cons x

theorem append_first (xs : List α) (h : Split whole first second) :
    Split (xs ++ whole) (xs ++ first) second := by
  induction xs with
  | nil => exact h
  | cons x xs ih => exact .first x ih

theorem flatMap (h : Split whole first second) (f : α → List β) :
    Split (whole.flatMap f) (first.flatMap f) (second.flatMap f) := by
  induction h with
  | nil => exact .nil
  | first x _ ih => exact ih.append_first (f x)
  | second x _ ih => exact (ih.swap.append_first (f x)).swap

theorem filterMap (h : Split whole first second) (f : α → Option β) :
    Split (whole.filterMap f) (first.filterMap f) (second.filterMap f) := by
  induction h with
  | nil => exact .nil
  | first x _ ih =>
    cases hx : f x with
    | none => simpa only [List.filterMap_cons_none hx] using ih
    | some y => simpa only [List.filterMap_cons_some hx] using ih.first y
  | second x _ ih =>
    cases hx : f x with
    | none => simpa only [List.filterMap_cons_none hx] using ih
    | some y => simpa only [List.filterMap_cons_some hx] using ih.second y

theorem map (h : Split whole first second) (f : α → β) :
    Split (whole.map f) (first.map f) (second.map f) := by
  simpa only [List.filterMap_eq_map] using h.filterMap (some ∘ f)

theorem filter (h : Split whole first second) (p : α → Bool) :
    Split (whole.filter p) (first.filter p) (second.filter p) := by
  simpa only [List.filterMap_eq_filter] using h.filterMap (Option.guard p)

/-- A search that the second part cannot answer is answered by the first. -/
theorem find?_eq (h : Split whole first second) {p : α → Bool} (hp : ∀ x ∈ second, ¬ p x) :
    whole.find? p = first.find? p := by
  induction h with
  | nil => rfl
  | first x _ ih => rw [List.find?_cons, List.find?_cons, ih hp]
  | second x _ ih =>
    rw [List.find?_cons_of_neg (hp x List.mem_cons_self)]
    exact ih fun y hy => hp y (List.mem_cons_of_mem x hy)

theorem exists_mem_iff (h : Split whole first second) {P : α → Prop} (hP : ∀ x ∈ second, ¬ P x) :
    (∃ x ∈ whole, P x) ↔ ∃ x ∈ first, P x := by
  constructor
  · rintro ⟨x, hx, hPx⟩
    rcases h.mem_iff.1 hx with hfirst | hsecond
    · exact ⟨x, hfirst, hPx⟩
    · exact absurd hPx (hP x hsecond)
  · rintro ⟨x, hx, hPx⟩
    exact ⟨x, h.sublist.mem hx, hPx⟩

theorem flatMap_perm (h : Split whole first second) {f g g' : α → List β}
    (hfirst : ∀ x ∈ first, f x = g x) (hsecond : ∀ x ∈ second, f x = g' x) :
    (whole.flatMap f).Perm (first.flatMap g ++ second.flatMap g') := by
  rw [← List.flatMap_congr hfirst, ← List.flatMap_congr hsecond]
  exact (h.flatMap f).perm

theorem filterMap_perm (h : Split whole first second) {f g g' : α → Option β}
    (hfirst : ∀ x ∈ first, f x = g x) (hsecond : ∀ x ∈ second, f x = g' x) :
    (whole.filterMap f).Perm (first.filterMap g ++ second.filterMap g') := by
  rw [← List.filterMap_congr hfirst, ← List.filterMap_congr hsecond]
  exact (h.filterMap f).perm

end Split

theorem append_perm_append {xs xs' first first' second second' : List α}
    (h : xs.Perm (first ++ second)) (h' : xs'.Perm (first' ++ second')) :
    (xs ++ xs').Perm ((first ++ first') ++ (second ++ second')) := by
  apply (h.append h').trans
  rw [List.append_assoc, List.append_assoc]
  exact List.Perm.append_left first (List.perm_append_comm_assoc second first' second')

end LookML
