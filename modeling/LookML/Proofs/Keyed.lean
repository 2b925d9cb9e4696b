import LookML.Keyed
import Mathlib.Data.List.Nodup
/-!
# Looking up by key

What is found under a key after elements were put into a list: the one put last, joined with the
one it replaced. Lists with distinct keys stay so. Lists that are put on one another may be grouped
as one likes, if the keys of the one in the middle are distinct.
-/

namespace LookML.Keyed

variable {α κ : Type} [DecidableEq κ] {key : α → κ} {join : α → α → α}

theorem forall_mem_put {P : α → Prop} {x : α} {ys : List α} (hjoin : ∀ y ∈ ys, P (join y x))
    (hx : P x) (hys : ∀ y ∈ ys, P y) : ∀ z ∈ put key join x ys, P z := by
  induction ys with
  | nil => simpa [put] using hx
  | cons y ys ih =>
    obtain ⟨hy, hys⟩ := List.forall_mem_cons.1 hys
    obtain ⟨hjoiny, hjoin⟩ := List.forall_mem_cons.1 hjoin
    rw [put]
    split
    · exact List.forall_mem_cons.2 ⟨hjoiny, hys⟩
    · exact List.forall_mem_cons.2 ⟨hy, ih hjoin hys⟩

theorem find?_put (h : ∀ y x, key y = key x → key (join y x) = key x) (x : α) (ys : List α)
    (k : κ) :
    (put key join x ys).find? (key · = k) =
      if key x = k then some ((ys.find? (key · = k)).elim x (join · x))
      else ys.find? (key · = k) := by
  induction ys with
  | nil => by_cases hx : key x = k <;> simp [put, hx]
  | cons y ys ih =>
    rw [put]
    by_cases hyx : key y = key x
    · rw [if_pos hyx]
      by_cases hx : key x = k <;> simp [h y x hyx, hyx, hx]
    · rw [if_neg hyx]
      by_cases hy : key y = k
      · have hx : key x ≠ k := fun hx => hyx (hy.trans hx.symm)
        simp [hy, hx]
      · simpa [hy] using ih

theorem find?_putAll (h : ∀ y x, key y = key x → key (join y x) = key x) {xs : List α}
    (hxs : (xs.map key).Nodup) (ys : List α) (k : κ) :
    (putAll key join ys xs).find? (key · = k) =
      ((xs.find? (key · = k)).map fun x => (ys.find? (key · = k)).elim x (join · x)).or
        (ys.find? (key · = k)) := by
  induction xs generalizing ys with
  | nil => simp [putAll]
  | cons x xs ih =>
    obtain ⟨hx, hxs⟩ := List.nodup_cons.1 hxs
    have hstep : putAll key join ys (x :: xs) = putAll key join (put key join x ys) xs := rfl
    rw [hstep, ih hxs, find?_put h]
    by_cases hk : key x = k
    · have hnone : xs.find? (key · = k) = none := by
        apply List.find?_eq_none.2
        intro z hz hzk
        exact hx (List.mem_map.2 ⟨z, hz, (of_decide_eq_true hzk).trans hk.symm⟩)
      simp [hk, hnone]
    · simp [hk]

theorem nodup_putAll (h : ∀ y x, key y = key x → key (join y x) = key x) (xs : List α)
    {ys : List α} (hys : (ys.map key).Nodup) : ((putAll key join ys xs).map key).Nodup := by
  induction xs generalizing ys with
  | nil => exact hys
  | cons x xs ih => exact ih (nodup_put h hys)

/-- Among distinct keys, an element is what is found under its key. -/
theorem find?_eq_some_iff {xs : List α} (hxs : (xs.map key).Nodup) {k : κ} {x : α} :
    xs.find? (key · = k) = some x ↔ x ∈ xs ∧ key x = k := by
  induction xs with
  | nil => simp
  | cons y ys ih =>
    obtain ⟨hy, hys⟩ := List.nodup_cons.1 hxs
    by_cases hk : key y = k
    · have hrest : ∀ z ∈ ys, key z ≠ k := by
        intro z hz hzk
        exact hy (List.mem_map.2 ⟨z, hz, hzk.trans hk.symm⟩)
      simp only [List.find?_cons, hk, decide_true, Option.some.injEq, List.mem_cons]
      constructor
      · rintro rfl
        exact ⟨Or.inl rfl, hk⟩
      · rintro ⟨rfl | hx, hxk⟩
        · rfl
        · exact absurd hxk (hrest x hx)
    · simp only [List.find?_cons, hk, decide_false, ih hys, List.mem_cons]
      constructor
      · exact fun hx => ⟨Or.inr hx.1, hx.2⟩
      · rintro ⟨rfl | hx, hxk⟩
        · exact absurd hxk hk
        · exact ⟨hx, hxk⟩

theorem filter_eq_toList {xs : List α} (hxs : (xs.map key).Nodup) (k : κ) :
    xs.filter (key · = k) = (xs.find? (key · = k)).toList := by
  induction xs with
  | nil => rfl
  | cons y ys ih =>
    obtain ⟨hy, hys⟩ := List.nodup_cons.1 hxs
    by_cases hk : key y = k
    · have hrest : ys.filter (key · = k) = [] := by
        apply List.filter_eq_nil_iff.2
        intro z hz hzk
        exact hy (List.mem_map.2 ⟨z, hz, (of_decide_eq_true hzk).trans hk.symm⟩)
      simp [hk, hrest]
    · simpa [hk] using ih hys

/-- Among distinct keys, the order does not matter. -/
theorem find?_perm (key : α → κ) {xs ys : List α} (h : xs.Perm ys) (hxs : (xs.map key).Nodup)
    (k : κ) :
    xs.find? (key · = k) = ys.find? (key · = k) := by
  have hys : (ys.map key).Nodup := (h.map key).nodup_iff.1 hxs
  ext x
  rw [find?_eq_some_iff hxs, find?_eq_some_iff hys, h.mem_iff]

/-! ## Putting lists on one another -/

section Assoc

variable (hkey : ∀ y x, key y = key x → key (join y x) = key x)
include hkey

theorem put_put_of_eq (hjoin : ∀ z y x, join (join z y) x = join z (join y x)) {y x : α}
    (h : key y = key x) (zs : List α) :
    put key join x (put key join y zs) = put key join (join y x) zs := by
  have hjoined : key (join y x) = key x := hkey y x h
  induction zs with
  | nil => simp [put, h]
  | cons z zs ih =>
    by_cases hz : key z = key x
    · have hreplaced : key (join z y) = key x := (hkey z y (hz.trans h.symm)).trans h
      simp [put, hz, h, hjoined, hreplaced, hjoin]
    · simp [put, hz, h, hjoined, ih]

/-- Elements with different keys do not get in each other's way, unless both are new. -/
theorem put_comm {y x : α} (h : key y ≠ key x) {zs : List α} (hmem : key x ∈ zs.map key) :
    put key join x (put key join y zs) = put key join y (put key join x zs) := by
  induction zs with
  | nil => cases hmem
  | cons z zs ih =>
    by_cases hzx : key z = key x
    · have hzy : key z ≠ key y := fun e => h (e.symm.trans hzx)
      have hreplaced : key (join z x) ≠ key y := fun e => h (e.symm.trans (hkey z x hzx))
      rw [put, if_neg hzy, put, if_pos hzx, put, if_pos hzx, put, if_neg hreplaced]
    · have hrest : key x ∈ zs.map key := by
        rcases List.mem_cons.1 hmem with e | hrest
        · exact absurd e.symm hzx
        · exact hrest
      by_cases hzy : key z = key y
      · have hreplaced : key (join z y) ≠ key x := fun e => h ((hkey z y hzy).symm.trans e)
        rw [put, if_pos hzy, put, if_neg hreplaced, put, if_neg hzx, put, if_pos hzy]
      · rw [put, if_neg hzy, put, if_neg hzx, put, if_neg hzx, put, if_neg hzy, ih hrest]

theorem put_putAll_of_notMem {x : α} {ys : List α} (hys : key x ∉ ys.map key) {zs : List α}
    (hmem : key x ∈ zs.map key) :
    put key join x (putAll key join zs ys) = putAll key join (put key join x zs) ys := by
  induction ys generalizing zs with
  | nil => rfl
  | cons y ys ih =>
    rw [List.map_cons, List.mem_cons, not_or] at hys
    obtain ⟨hy, hys⟩ := hys
    have hstill : key x ∈ (put key join y zs).map key := by
      rw [map_put hkey]
      split
      · exact hmem
      · exact List.mem_append_left _ hmem
    calc put key join x (putAll key join (put key join y zs) ys)
        = putAll key join (put key join x (put key join y zs)) ys := ih hys hstill
      _ = putAll key join (put key join y (put key join x zs)) ys := by
        rw [put_comm hkey (Ne.symm hy) hmem]

theorem putAll_put (hjoin : ∀ z y x, join (join z y) x = join z (join y x)) (x : α)
    {ys : List α} (hys : (ys.map key).Nodup) (zs : List α) :
    putAll key join zs (put key join x ys) = put key join x (putAll key join zs ys) := by
  induction ys generalizing zs with
  | nil => rfl
  | cons y ys ih =>
    obtain ⟨hy, hrest⟩ := List.nodup_cons.1 hys
    by_cases h : key y = key x
    · have hmem : key x ∈ (put key join y zs).map key := by
        rw [map_put hkey, h]
        split
        · assumption
        · simp
      rw [put, if_pos h]
      calc putAll key join (put key join (join y x) zs) ys
          = putAll key join (put key join x (put key join y zs)) ys := by
            rw [put_put_of_eq hkey hjoin h]
        _ = put key join x (putAll key join (put key join y zs) ys) :=
          (put_putAll_of_notMem hkey (h ▸ hy) hmem).symm
    · rw [put, if_neg h]
      exact ih hrest (put key join y zs)

theorem putAll_assoc (hjoin : ∀ z y x, join (join z y) x = join z (join y x)) (xs : List α)
    {ys : List α} (hys : (ys.map key).Nodup) (zs : List α) :
    putAll key join (putAll key join zs ys) xs = putAll key join zs (putAll key join ys xs) := by
  induction xs generalizing ys with
  | nil => rfl
  | cons x xs ih =>
    have hfirst := ih (nodup_put hkey (x := x) hys)
    rw [putAll_put hkey hjoin x hys] at hfirst
    exact hfirst

end Assoc

end LookML.Keyed
