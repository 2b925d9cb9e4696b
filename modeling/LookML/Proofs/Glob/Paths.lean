import LookML.Proofs.Glob.Expansion
import Mathlib.Data.Set.List
/-!
# The paths of an expansion

How the path of a place that steps lead to goes on from the path that they start from: by names, and
by `..` if one of the steps leads up.
-/

namespace LookML.Glob

open FileTree (Place)

variable {base : Place} {d e : Path} {name : String} {f g : Found} {up : Prop}

/-! ## One step -/

theorem text_within_ne (hd : d.text ≠ "") (hname : d.components = [.current] → name ≠ "") :
    (within d name).text ≠ "" := by
  unfold within
  split
  · rename_i hcurrent
    exact hname hcurrent
  · exact Path.text_join_ne hd name

theorem bare_within (hd : d.text ≠ "") (hname : '/' ∉ name.toList) :
    (within d name).bare = d.bare ++ (Path.component? name).toList := by
  unfold within
  split
  · rename_i hcurrent
    rw [Path.bare_of_notMem hname, Path.bare, hcurrent]
    rfl
  · exact Path.bare_join hd hname

theorem current_mem_join (htext : d.text ≠ "") (hname : '/' ∉ name.toList)
    (h : .current ∈ (d.join name).components) : .current ∈ d.components := by
  rw [Path.components_join htext hname] at h
  obtain h | h := List.mem_append.1 h
  · exact h
  · exact absurd rfl (Path.component?_ne (Option.mem_toList.1 h)).2

/-- Only dots lead nowhere else from the current directory. -/
theorem eq_dot_of_within (hd : d.text ≠ "") (hname : '/' ∉ name.toList)
    (h : (within d name).components = [.current]) : d.components = [.current] ∧ name = "." := by
  unfold within at h
  split at h
  · rename_i hcurrent
    refine ⟨hcurrent, not_not.1 fun hdot => ?_⟩
    rw [Path.components_of_notMem hname, if_neg hdot] at h
    have hmem : .current ∈ (Path.component? name).toList := h ▸ List.mem_singleton_self _
    exact (Path.component?_ne (Option.mem_toList.1 hmem)).2 rfl
  · rename_i hcurrent
    have hmem := current_mem_join hd hname (h ▸ List.mem_singleton_self _)
    rw [Path.components_join hd hname] at h
    cases hc : d.components with
    | nil =>
      rw [hc] at hmem
      cases hmem
    | cons c cs =>
      rw [hc, List.cons_append] at h
      obtain ⟨rfl, hrest⟩ := List.cons.inj h
      rw [hc, (List.append_eq_nil_iff.1 hrest).1] at hcurrent
      exact absurd rfl hcurrent

/-- The step leads to the directory above. A set of characters does so only if it begins with a
dot. -/
def Step.LeadsUp : Step → Prop
  | .name s => s = ".."
  | .matching m => m.tokens.head? = some (.literal '.') ∧ m.isMatch ".."
  | .descend => False

instance : DecidablePred Step.LeadsUp
  | .name s => inferInstanceAs (Decidable (s = ".."))
  | .matching m =>
    inferInstanceAs (Decidable (m.tokens.head? = some (.literal '.') ∧ m.isMatch ".."))
  | .descend => inferInstanceAs (Decidable False)

def Tidy (up : Prop) (d : Path) : Prop :=
  .current ∈ d.components → d.components = [.current] ∨ .parent ∈ d.components ∧ up

/-- The path goes on from `d` by names, and by `..` if that is possible. -/
structure Continues (up : Prop) (d e : Path) : Prop where
  added : ∃ cs, e.bare = d.bare ++ cs ∧ ∀ c ∈ cs, (∃ s, c = .name s) ∨ c = .parent ∧ up
  tidy : Tidy up e

theorem continues_refl (h : Tidy up d) : Continues up d d :=
  ⟨⟨[], by simp, List.forall_mem_nil _⟩, h⟩

theorem component?_cases {c : Path.Component} (h : Path.component? name = some c) :
    c = .name name ∨ c = .parent ∧ name = ".." := by
  unfold Path.component? at h
  split at h
  · cases h
  · split at h
    · rename_i hup
      cases h
      exact .inr ⟨rfl, hup⟩
    · cases h
      exact .inl rfl

theorem Continues.add (h : Continues up d e) (hup : name = ".." → up) {e' : Path}
    (hbare : e'.bare = e.bare ++ (Path.component? name).toList) (htidy : Tidy up e') :
    Continues up d e' := by
  obtain ⟨cs, hcs, hnames⟩ := h.added
  refine ⟨⟨cs ++ (Path.component? name).toList, by rw [hbare, hcs, List.append_assoc], ?_⟩, htidy⟩
  refine List.forall_mem_append.2 ⟨hnames, fun c hc => ?_⟩
  obtain rfl | ⟨rfl, hdots⟩ := component?_cases (Option.mem_toList.1 hc)
  · exact .inl ⟨name, rfl⟩
  · exact .inr ⟨rfl, hup hdots⟩

theorem Continues.exists_names (h : Continues up d e) (hup : up → .parent ∉ e.components)
    (hcurrent : e.components ≠ [.current]) :
    ∃ names : List String, e.components = d.bare ++ names.map .name := by
  have hnone : .current ∉ e.components := by
    intro hmem
    obtain heq | ⟨hparent, hup'⟩ := h.tidy hmem
    · exact hcurrent heq
    · exact hup hup' hparent
  obtain ⟨cs, hcs, hnames⟩ := h.added
  rw [Path.bare_of_notMem_current hnone] at hcs
  have hall : cs ∈ Set.range (List.map Path.Component.name) := by
    rw [Set.range_list_map]
    intro c hc
    obtain ⟨s, rfl⟩ | ⟨rfl, hup'⟩ := hnames c hc
    · exact ⟨s, rfl⟩
    · exact absurd (hcs ▸ List.mem_append_right _ hc) (hup hup')
  obtain ⟨names, rfl⟩ := hall
  exact ⟨names, hcs⟩

theorem tidy_join (h : Tidy up d) (hcurrent : d.components ≠ [.current]) (htext : d.text ≠ "")
    (hname : '/' ∉ name.toList) : Tidy up (d.join name) := by
  intro hmem
  obtain heq | ⟨hparent, hup⟩ := h (current_mem_join htext hname hmem)
  · exact absurd heq hcurrent
  · rw [Path.components_join htext hname]
    exact .inr ⟨List.mem_append_left _ hparent, hup⟩

theorem tidy_within (h : Tidy up d) (htext : d.text ≠ "") (hname : '/' ∉ name.toList) :
    Tidy up (within d name) := by
  unfold within
  split
  · intro hmem
    rw [Path.components_of_notMem hname] at hmem ⊢
    split at hmem
    · exact .inl (if_pos ‹_›)
    · exact absurd rfl (Path.component?_ne (Option.mem_toList.1 hmem)).2
  · rename_i hcurrent
    exact tidy_join h hcurrent htext hname

theorem tidy_join_dots (h : Tidy up d) (htext : d.text ≠ "") (hname : name ∈ [".", ".."])
    (hup : name = ".." → up) : Tidy up (d.join name) := by
  intro hmem
  have hslash := notMem_of_mem_dots hname
  have hd := h (current_mem_join htext hslash hmem)
  rw [Path.components_join htext hslash]
  rcases List.mem_pair.1 hname with rfl | rfl
  · simpa [Path.component?] using hd
  · exact .inr ⟨List.mem_append_right _ (by simp [Path.component?]), hup rfl⟩

theorem bare_startOf (base : Place) (pattern : Path) :
    (startOf base pattern).path.bare = if pattern.isAbsolute then [.root] else [] := by
  have hroot : Path.bare ⟨"/"⟩ = [.root] := by decide
  have hcurrent : Path.bare ⟨"."⟩ = [] := by decide
  unfold startOf
  split
  · exact hroot
  · exact hcurrent

theorem tidy_startOf (base : Place) (pattern : Path) : Tidy up (startOf base pattern).path := by
  have hroot : .current ∉ Path.components ⟨"/"⟩ := by decide
  have hcurrent : Path.components ⟨"."⟩ = [.current] := by decide
  unfold startOf
  split
  · exact fun hmem => absurd hmem hroot
  · exact fun _ => .inl hcurrent

theorem continues_startOf (base : Place) (h : .current ∉ d.components) :
    Continues True (startOf base d).path d := by
  refine ⟨⟨_, by rw [bare_startOf, Path.bare_eq], fun c hc => ?_⟩, fun hmem => absurd hmem h⟩
  obtain ⟨s, -, hs⟩ := List.mem_filterMap.1 hc
  obtain rfl | ⟨rfl, -⟩ := component?_cases hs
  · exact .inl ⟨s, rfl⟩
  · exact .inr ⟨rfl, trivial⟩

theorem continues_parent (hbase : base.WellFormed) (hfile : base.hasFile d)
    (h : .current ∉ d.components) : Continues False d.parent d := by
  obtain ⟨front, last, hsegments⟩ := d.exists_segments
  have hlast : last ≠ ".." := by
    rintro rfl
    obtain ⟨q, hq, hisFile⟩ := (Option.any_eq_true _ _).1 hfile
    have hfollow := (Place.follow?_eq_some_iff.1 hq).2
    rw [hsegments, List.foldlM_append] at hfollow
    obtain ⟨r, hr, hfollow⟩ := Option.bind_eq_some_iff.1 hfollow
    have hstep : r.step ".." = some q := by simpa using hfollow
    have hdirectory := ((hbase.start d).foldlM_step hr).isDirectory_of_step hstep
    cases hhere : q.here <;> simp_all [FileTree.isFile, FileTree.isDirectory]
  refine ⟨⟨(Path.component? last).toList, ?_, fun c hc => ?_⟩, fun hmem => absurd hmem h⟩
  · rw [Path.bare_parent, Path.bare_eq, hsegments, List.dropLast_concat, List.filterMap_append,
      List.append_assoc]
    cases hc : Path.component? last <;> simp [hc]
  · obtain rfl | ⟨rfl, hdots⟩ := component?_cases (Option.mem_toList.1 hc)
    · exact .inl ⟨last, rfl⟩
    · exact absurd hdots hlast

theorem continues_of_mem_reach {all : List Step}
    (hall : ∀ step ∈ all, step.IsSingle ∧ (step.LeadsUp → up)) (hf : f.Leads base)
    (hd : Continues up d f.path) : ∀ g ∈ reach all f, g.Leads base ∧ Continues up d g.path := by
  refine forall_mem_reach ?_ ?_ ?_ all hall f ⟨hf, hd⟩
  · rintro f ⟨hf, hd⟩ e he
    obtain ⟨-, hname, -⟩ := hf.wellFormed.here.of_mem_entries he
    exact ⟨hf.inside he, hd.add (fun hup => absurd hup hname.2.2.1)
      (bare_within hf.text_ne hname.2.2.2) (tidy_within hd.tidy hf.text_ne hname.2.2.2)⟩
  · rintro s f g ⟨hsingle, hup⟩ ⟨hf, hd⟩ hg
    refine ⟨hf.entry? hsingle hg, ?_⟩
    simp only [Found.entry?] at hg
    split at hg
    · cases hg
    · obtain ⟨place, -, rfl⟩ := Option.map_eq_some_iff.1 hg
      exact hd.add hup (bare_within hf.text_ne hsingle) (tidy_within hd.tidy hf.text_ne hsingle)
  · rintro m f n q ⟨-, hup⟩ ⟨hf, hd⟩ hdot hn hmatch hq
    have hup' : n = ".." → up := by
      rintro rfl
      exact hup ⟨hdot, hmatch⟩
    exact ⟨hf.dots hn hq, hd.add hup' (Path.bare_join hf.text_ne (notMem_of_mem_dots hn))
      (tidy_join_dots hd.tidy hf.text_ne hn hup')⟩

end LookML.Glob
