import LookML.Proofs.Violation.Order
import Mathlib.Data.Finset.Sort
import Mathlib.Data.List.Nodup
import Mathlib.Data.String.Basic
/-!
# Violations file by file

The canonical order lists one file after another: the files of the input in their order, then any
others in alphabetical order. Within a file, findings about all of it come first, then line after
line, and at one line rule after rule.
-/

namespace LookML

theorem flatMap_filter_perm {α κ : Type} [DecidableEq κ] (key : α → κ) (l : List α)
    {keys : List κ} (hkeys : keys.Nodup) :
    (keys.flatMap fun k => l.filter (key · = k)).Perm (l.filter (key · ∈ keys)) := by
  induction keys with
  | nil => simp
  | cons k keys ih =>
    obtain ⟨hk, hkeys⟩ := List.nodup_cons.1 hkeys
    have hsplit := List.filter_append_perm (key · = k) (l.filter (key · ∈ k :: keys))
    have hfirst : (l.filter (key · ∈ k :: keys)).filter (key · = k) = l.filter (key · = k) := by
      rw [List.filter_filter]
      apply List.filter_congr
      intro x _
      by_cases hx : key x = k <;> simp [hx]
    have hrest : (l.filter (key · ∈ k :: keys)).filter (fun x => !decide (key x = k)) =
        l.filter (key · ∈ keys) := by
      rw [List.filter_filter]
      apply List.filter_congr
      intro x _
      by_cases hx : key x = k <;> simp [hx, hk]
    rw [hfirst, hrest] at hsplit
    rw [List.flatMap_cons]
    exact ((ih hkeys).append_left _).trans hsplit

namespace Violation

/-- Findings about a whole file come before those at a line, and lines in order. -/
def LineBefore : Option Nat → Option Nat → Prop
  | none, some _ => True
  | some m, some n => m < n
  | _, none => False

def LineThenRule (a b : Violation) : Prop :=
  LineBefore a.line b.line ∨ a.line = b.line ∧ a.rule.text ≤ b.rule.text

variable {paths : List String}

/-! ## The order of files -/

theorem pathRank_getElem (hpaths : paths.Nodup) {i : Nat} (hi : i < paths.length) :
    pathRank paths paths[i] = i := by
  have hlast : paths.length - 1 - i < paths.reverse.length := by
    rw [List.length_reverse]
    omega
  have hget : paths[i] = paths.reverse[paths.length - 1 - i] := by
    rw [List.getElem_reverse]
    congr 1
    omega
  rw [pathRank, if_pos (List.getElem_mem hi), hget,
    (List.nodup_reverse.2 hpaths).idxOf_getElem _ hlast]
  omega

theorem pathRank_of_not_mem {path : String} (h : path ∉ paths) :
    pathRank paths path = paths.length :=
  if_neg h

theorem pathRank_lt_of_mem {path : String} (h : path ∈ paths) :
    pathRank paths path < paths.length := by
  have hpos := List.length_pos_of_mem h
  rw [pathRank, if_pos h]
  omega

/-- The files of the input keep their order, and come before any others, which are in alphabetical
order. -/
theorem pairwise_pathRank (hpaths : paths.Nodup) {unknown : List String}
    (hsorted : unknown.Pairwise (· < ·)) (hunknown : ∀ path ∈ unknown, path ∉ paths) :
    (paths ++ unknown).Pairwise fun p q =>
      pathRank paths p < pathRank paths q ∨ pathRank paths p = pathRank paths q ∧ p < q := by
  refine List.pairwise_append.2 ⟨?_, ?_, ?_⟩
  · refine List.pairwise_iff_getElem.2 fun i j hi hj hij => .inl ?_
    rwa [pathRank_getElem hpaths, pathRank_getElem hpaths]
  · refine hsorted.imp_of_mem fun {p q} hp hq hlt => .inr ⟨?_, hlt⟩
    rw [pathRank_of_not_mem (hunknown p hp), pathRank_of_not_mem (hunknown q hq)]
  · intro p hp q hq
    rw [pathRank_of_not_mem (hunknown q hq)]
    exact .inl (pathRank_lt_of_mem hp)

theorem isLE_order_of_path {a b : Violation}
    (h : pathRank paths a.path < pathRank paths b.path ∨
      pathRank paths a.path = pathRank paths b.path ∧ a.path < b.path) :
    (order paths a b).isLE := by
  unfold order
  rcases h with hrank | ⟨hrank, hpath⟩
  · rw [compare_lt_iff_lt.2 hrank]
    rfl
  · rw [compare_eq_iff_eq.2 hrank, compare_lt_iff_lt.2 hpath]
    rfl

theorem lineBefore_of_compare {l m : Option Nat} (h : compare l m = .lt) : LineBefore l m := by
  cases l with
  | none =>
    cases m with
    | none => cases h
    | some n => trivial
  | some k =>
    cases m with
    | none => cases h
    | some n => exact compare_lt_iff_lt.1 h

theorem lineThenRule_of_order {a b : Violation} (hpath : a.path = b.path)
    (h : (order paths a b).isLE) : LineThenRule a b := by
  simp only [order, hpath, Std.ReflCmp.compare_self, Ordering.eq_then] at h
  rcases Ordering.isLE_then_iff_or.1 h with hline | ⟨hline, h⟩
  · exact .inl (lineBefore_of_compare hline)
  · refine .inr ⟨Std.LawfulEqOrd.eq_of_compare hline, ?_⟩
    rcases Ordering.isLE_then_iff_or.1 h with hrule | ⟨hrule, _⟩
    · exact (compare_lt_iff_lt.1 hrule).le
    · exact (compare_eq_iff_eq.1 hrule).le

/-! ## Grouping -/

/-- The paths outside the input that violations point at, each once, in alphabetical order. -/
def unknownPaths (paths : List String) (violations : List Violation) : List String :=
  ((violations.map path).filter (· ∉ paths)).toFinset.sort

theorem mem_unknownPaths {violations : List Violation} {path : String} :
    path ∈ unknownPaths paths violations ↔
      path ∉ paths ∧ ∃ v ∈ violations, v.path = path := by
  simp [unknownPaths, and_comm]

theorem pairwise_unknownPaths (violations : List Violation) :
    (unknownPaths paths violations).Pairwise (· < ·) :=
  (Finset.sortedLT_sort _).pairwise

theorem sort_eq_flatMap (hpaths : paths.Nodup) (violations : List Violation) :
    sort paths violations = (paths ++ unknownPaths paths violations).flatMap fun path =>
      (sort paths violations).filter (·.path = path) := by
  have hsorted := pairwise_pathRank hpaths (pairwise_unknownPaths violations)
    fun _ hpath => (mem_unknownPaths.1 hpath).1
  have hnodup : (paths ++ unknownPaths paths violations).Nodup := by
    refine List.nodup_append.2 ⟨hpaths, (pairwise_unknownPaths violations).imp ne_of_lt, ?_⟩
    rintro p hp _ hq rfl
    exact (mem_unknownPaths.1 hq).1 hp
  have hall : (sort paths violations).filter
      (·.path ∈ paths ++ unknownPaths paths violations) = sort paths violations := by
    apply List.filter_eq_self.2
    intro v hv
    have hmem : v ∈ violations := (sort_perm paths violations).mem_iff.1 hv
    by_cases hknown : v.path ∈ paths
    · simp [hknown]
    · simp [mem_unknownPaths.2 ⟨hknown, v, hmem, rfl⟩]
  have hperm := flatMap_filter_perm path (sort paths violations) hnodup
  rw [hall] at hperm
  refine hperm.symm.eq_of_pairwise ?_ (pairwise_sort paths violations) ?_
  · intro a b _ _ hab hba
    exact eq_of_order_eq paths (Std.OrientedCmp.isLE_antisymm hab hba)
  · refine List.pairwise_flatMap.2 ⟨fun p _ => (pairwise_sort paths violations).filter _, ?_⟩
    refine hsorted.imp fun h a ha b hb => ?_
    obtain ⟨_, rfl⟩ := by simpa using ha
    obtain ⟨_, rfl⟩ := by simpa using hb
    exact isLE_order_of_path h

/-! ## Main statement -/

/-- There is one order for all ways of collecting the violations: file by file, the known files
first, and in a file line by line. -/
theorem sort_canonical (paths : List String) :
    (∀ violations violations', violations.Perm violations' →
      sort paths violations = sort paths violations') ∧
    (∀ violations, (sort paths violations).Perm violations ∧
      sort paths (sort paths violations) = sort paths violations ∧
      (sort paths violations).Pairwise fun a b => a.path = b.path → LineThenRule a b) ∧
    (paths.Nodup → ∀ violations, ∃ unknown : List String,
      unknown.Pairwise (· < ·) ∧ (∀ path ∈ unknown, path ∉ paths) ∧
      sort paths violations = (paths ++ unknown).flatMap fun path =>
        (sort paths violations).filter (·.path = path)) := by
  refine ⟨fun _ _ h => sort_eq_of_perm paths h, fun violations => ?_, fun hpaths violations => ?_⟩
  · have hperm := sort_perm paths violations
    refine ⟨hperm, sort_eq_of_perm paths hperm, ?_⟩
    exact (pairwise_sort paths violations).imp fun h hpath => lineThenRule_of_order hpath h
  · exact ⟨unknownPaths paths violations, pairwise_unknownPaths violations,
      fun _ hpath => (mem_unknownPaths.1 hpath).1, sort_eq_flatMap hpaths violations⟩

/-- Findings about `b`, which comes first, `a`, and a file that is not in the input. -/
def scattered : List Violation :=
  let rule : RuleId := ⟨"r", by decide⟩
  [.ofFile rule .error "" "x", .finding rule .error "" (.point "a" 2 1),
    .finding rule .error "" (.point "b" 1 1), .ofFile rule .error "" "a"]

theorem sort_canonical_scattered :
    scattered.Perm scattered.reverse ∧
      sort ["b", "a"] scattered = sort ["b", "a"] scattered.reverse ∧
      ["b", "a"].Nodup ∧ ∃ unknown : List String,
        unknown.Pairwise (· < ·) ∧ (∀ path ∈ unknown, path ∉ ["b", "a"]) ∧
        sort ["b", "a"] scattered = (["b", "a"] ++ unknown).flatMap fun path =>
          (sort ["b", "a"] scattered).filter (·.path = path) := by
  have hperm : scattered.Perm scattered.reverse := (List.reverse_perm scattered).symm
  have hnodup : ["b", "a"].Nodup := by decide
  obtain ⟨hsame, _, hgroups⟩ := sort_canonical ["b", "a"]
  exact ⟨hperm, hsame _ _ hperm, hnodup, hgroups hnodup scattered⟩

end Violation

end LookML
