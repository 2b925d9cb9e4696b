/-!
# Lists addressed by a key

A list in which an element is put in the place of the one with the same key, or at the end if
there is none. The places of the others never change.
-/

namespace LookML.Keyed

variable {α κ : Type} [DecidableEq κ]

/-- Puts `x` in the place of the first element with its key, joined with that one by `join old x`,
or at the end if there is none. -/
def put (key : α → κ) (join : α → α → α) (x : α) : List α → List α
  | [] => [x]
  | y :: ys => if key y = key x then join y x :: ys else y :: put key join x ys

def putAll (key : α → κ) (join : α → α → α) (ys xs : List α) : List α :=
  xs.foldl (fun acc x => put key join x acc) ys

/-- The keys keep their places; a new one comes last. -/
theorem map_put {key : α → κ} {join : α → α → α} (h : ∀ y x, key y = key x → key (join y x) = key x)
    (x : α) (ys : List α) :
    (put key join x ys).map key =
      if key x ∈ ys.map key then ys.map key else ys.map key ++ [key x] := by
  induction ys with
  | nil => simp [put]
  | cons y ys ih =>
    by_cases e : key y = key x
    · simp [put, e, h y x e]
    · have e' : ¬ key x = key y := fun hx => e hx.symm
      simp only [put, e, if_false, List.map_cons, ih, List.mem_cons, e', false_or]
      split <;> simp

theorem nodup_put {key : α → κ} {join : α → α → α}
    (h : ∀ y x, key y = key x → key (join y x) = key x) {x : α} {ys : List α}
    (nodup : (ys.map key).Nodup) : ((put key join x ys).map key).Nodup := by
  rw [map_put h]
  split
  · exact nodup
  · rename_i absent
    exact List.nodup_append.2 ⟨nodup, by simp, by
      intro a ha b hb; rw [List.mem_singleton] at hb; subst hb; exact fun e => absent (e ▸ ha)⟩

end LookML.Keyed
