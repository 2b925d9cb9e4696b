import LookML.Proofs.FileTree
/-!
# Where a path leads on disk

Without links a place is told from all others by the names that lead to it from the top of the
tree. They can be read off a path, and off where it is seen from.
-/

namespace LookML

namespace Path

/-- Where a component leads from the end of some names. -/
def Component.follow (names : List String) : Component → List String
  | root => []
  | current => names
  | parent => names.dropLast
  | name s => names ++ [s]

/-- The names to where a path leads, from the top of the tree. The path is seen from the end of
`here`. -/
def address (here : List String) (p : Path) : List String :=
  p.components.foldl Component.follow here

variable {p : Path} {here names : List String}

theorem address_eq_foldl_bare (here : List String) (p : Path) :
    p.address here = p.bare.foldl Component.follow here := by
  unfold address bare
  generalize p.components = cs
  induction cs generalizing here with
  | nil => rfl
  | cons c cs ih => cases c <;> exact ih _

theorem foldl_follow_names (here names : List String) :
    (names.map .name).foldl Component.follow here = here ++ names := by
  induction names generalizing here with
  | nil => exact here.append_nil.symm
  | cons n names ih => simp [Component.follow, ih]

theorem address_of_components {front : List Component}
    (h : p.components = front ++ names.map .name) :
    p.address here = front.foldl Component.follow here ++ names := by
  rw [address, h, List.foldl_append, foldl_follow_names]

end Path

namespace FileTree.Place

open LookML.Path (component?)

/-- The place is where the names lead from the top of the tree. -/
inductive StandsAt (top : FileTree) : List String → Place → Prop where
  | top : StandsAt top [] ⟨top, []⟩
  | into {names : List String} {p : Place} {name : String} {t : FileTree} (h : StandsAt top names p)
      (entry : p.here.entries.lookup name = some t) :
      StandsAt top (names ++ [name]) ⟨t, p.here :: p.above⟩

variable {top : FileTree} {names : List String} {p q base : Place}

theorem StandsAt.wellFormed (h : p.StandsAt top names) (htop : top.WellFormed) : p.WellFormed := by
  induction h with
  | top => exact ⟨htop, List.forall_mem_nil _⟩
  | @into _ p _ _ _ entry ih =>
    have hdirectory : p.here.isDirectory := by
      cases hhere : p.here with
      | file content => simp [hhere, FileTree.entries] at entry
      | directory entries => rfl
    exact ⟨ih.here.of_lookup entry, List.forall_mem_cons.2 ⟨⟨ih.here, hdirectory⟩, ih.above⟩⟩

theorem StandsAt.top_eq (h : p.StandsAt top names) : p.top = ⟨top, []⟩ := by
  induction h with
  | top => rfl
  | into _ _ ih => rwa [Place.top, List.getLast_cons (List.cons_ne_nil _ _)]

theorem StandsAt.step (h : p.StandsAt top names) {segment : String}
    (hq : p.step segment = some q) :
    q.StandsAt top ((component? segment).toList.foldl Path.Component.follow names) := by
  cases (moves_of_step hq).2 with
  | stay hnone => rwa [hnone]
  | atTop hup above =>
    subst hup
    cases h with
    | top => exact .top
    | into => cases above
  | up hup above =>
    subst hup
    cases h with
    | top => cases above
    | @into names p name _ h =>
      cases above
      change StandsAt top (names ++ [name]).dropLast p
      rwa [List.dropLast_concat]
  | into hname entry =>
    rw [hname]
    exact .into h entry

theorem StandsAt.foldlM_step (h : p.StandsAt top names) {segments : List String}
    (hq : segments.foldlM Place.step p = some q) :
    q.StandsAt top ((segments.filterMap component?).foldl Path.Component.follow names) := by
  induction segments generalizing p names with
  | nil =>
    cases hq
    exact h
  | cons s segments ih =>
    rw [List.foldlM_cons] at hq
    obtain ⟨r, hr, hq⟩ := Option.bind_eq_some_iff.1 hq
    have hrest := ih (h.step hr) hq
    cases hs : component? s <;> simpa [hs] using hrest

theorem StandsAt.follow? (h : base.StandsAt top names) {path : Path}
    (hq : base.follow? path = some q) : q.StandsAt top (path.address names) := by
  obtain ⟨-, hq⟩ := follow?_eq_some_iff.1 hq
  rw [Path.address_eq_foldl_bare, Path.bare_eq, List.foldl_append]
  unfold start at hq
  split at hq
  · rw [h.top_eq] at hq
    simpa [Path.Component.follow, ‹path.isAbsolute›] using StandsAt.top.foldlM_step hq
  · simpa [‹¬ path.isAbsolute›] using h.foldlM_step hq

end FileTree.Place

end LookML
