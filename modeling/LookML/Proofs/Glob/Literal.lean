import LookML.Proofs.Glob.Plain
/-!
# Paths without wildcards as the beginning of patterns

Such a path names nothing but itself: whatever a pattern names that begins with it is found by a
path that begins with it. If the rest of the pattern does not lead up, that path goes on by names.
-/

namespace LookML.Glob

open FileTree (Place)

/-- No character between the slashes means anything in a pattern. -/
def IsLiteral (d : Path) : Prop :=
  ∀ part ∈ d.segments, ∀ c ∈ part.toList, c ∉ ['*', '?', '[']

instance (d : Path) : Decidable (IsLiteral d) :=
  decidable_of_iff (d.segments.all fun part => part.toList.all (· ∉ ['*', '?', '['])) <| by
    simp [IsLiteral]

/-- No part of the pattern leads to the directory above. -/
def NeverUp (pattern : Path) : Prop :=
  ∀ part ∈ pattern.segments, ∀ g, parse part = .ok g → ¬ (Step.ofGlob g).LeadsUp

instance (pattern : Path) : Decidable (NeverUp pattern) :=
  decidable_of_iff
    (∀ part ∈ pattern.segments, ∀ g ∈ (parse part).toOption, ¬ (Step.ofGlob g).LeadsUp) <| by
      have hparse (part : String) (g : Glob) : g ∈ (parse part).toOption ↔ parse part = .ok g := by
        cases parse part <;> simp [Except.toOption]
      simp only [hparse, NeverUp]

variable {base : Place} {d : Path} {inner : String} {f g : Found} {rest all : List Step}

/-! ## Steps -/

theorem mapM_literal?_tokenOf {cs : List Char} (h : ∀ c ∈ cs, c ∉ ['*', '?', '[']) :
    (cs.map tokenOf).mapM GlobToken.literal? = some cs := by
  induction cs with
  | nil => rfl
  | cons c cs ih =>
    obtain ⟨hc, hcs⟩ := List.forall_mem_cons.1 h
    have htoken : tokenOf c = .literal c := by
      unfold tokenOf
      split
      · simp at hc
      · simp at hc
      · rfl
    exact mapM_literal?_cons.2 ⟨c, cs, htoken, ih hcs, rfl⟩

theorem parse_literal {part : String} (h : ∀ c ∈ part.toList, c ∉ ['*', '?', '[']) :
    Step.ofGlob <$> parse part = .ok (.name part) := by
  have hplain : Plain part.toList :=
    { brackets := fun hmem => h _ hmem (by decide)
      stars := fun hstars => h '*' (hstars.subset (by decide)) (by decide) }
  have hliteral : Glob.literal? ⟨part.toList.map tokenOf⟩ = some part := by
    rw [literal?, mapM_literal?_tokenOf h, Option.map_some, String.ofList_toList]
  rw [parse_plain hplain]
  show Except.ok (Step.ofGlob _) = _
  rw [Step.ofGlob, hliteral]

theorem not_leadsUp_of_mem_steps {pattern : Path} (hup : NeverUp pattern)
    (h : steps pattern = .ok all) : ∀ step ∈ all, ¬ step.LeadsUp := by
  intro step hstep
  obtain ⟨part, hpart, g, hg, rfl⟩ := exists_of_mem_steps h hstep
  exact hup part hpart g hg

/-- The steps of a pattern that begins with a path without wildcards: its parts as names, and steps
that do not lead up if the rest does not. -/
theorem exists_of_steps_join (hd : d.text ≠ "") (hliteral : IsLiteral d)
    (hfirst : (Path.segments ⟨inner⟩).head? ≠ some "")
    (hlast : (Path.segments ⟨inner⟩).getLast? ≠ some "") (hup : NeverUp ⟨inner⟩)
    (h : steps (d.join inner) = .ok all) :
    ∃ rest, all = (leading d).map .name ++ rest ∧ ∀ step ∈ rest, ¬ step.LeadsUp := by
  have hleading : (leading d).map (fun part => Step.ofGlob <$> parse part) =
      ((leading d).map .name).map .ok := by
    rw [List.map_map]
    refine List.map_congr_left fun part hpart => parse_literal (hliteral part ?_)
    have hpart := mem_parts_of_mem_leading hpart
    obtain heq | heq := d.segments_eq_parts
    · exact heq ▸ hpart
    · exact heq ▸ List.mem_append_left _ hpart
  have hmap := (steps_eq_ok.1 h).2
  rw [stepParts_join hd hfirst hlast, List.map_append, hleading] at hmap
  obtain ⟨names, rest, rfl, hnames, hrest⟩ := List.map_eq_append_iff.1 hmap.symm
  have hinjective : Function.Injective (Except.ok (ε := Error) (α := Step)) :=
    fun _ _ heq => Except.ok.inj heq
  obtain rfl := hinjective.list_map hnames
  refine ⟨rest, rfl, fun step hstep => ?_⟩
  obtain ⟨part, hpart, hok⟩ := List.mem_map.1 (hrest ▸ List.mem_map_of_mem hstep)
  obtain ⟨g, hg, rfl⟩ := map_eq_ok.1 hok
  exact hup part hpart g hg

/-! ## Reaching the directory -/

theorem exists_of_mem_reach_names {parts : List String}
    (hparts : ∀ part ∈ parts, '/' ∉ part.toList) (hf : f.Leads base) (htidy : Tidy False f.path)
    (hg : g ∈ reach (parts.map .name ++ rest) f) :
    ∃ e : Found, e.Leads base ∧ Tidy False e.path ∧
      e.path.bare = f.path.bare ++ parts.filterMap Path.component? ∧ g ∈ reach rest e := by
  induction parts generalizing f with
  | nil => exact ⟨f, hf, htidy, by simp, hg⟩
  | cons part parts ih =>
    obtain ⟨hpart, hparts⟩ := List.forall_mem_cons.1 hparts
    obtain ⟨e, he, hg⟩ := List.mem_flatMap.1 hg
    rw [Option.mem_toList] at he
    have hpath : e.path = within f.path part := by
      simp only [Found.entry?] at he
      split at he
      · cases he
      · obtain ⟨place, -, rfl⟩ := Option.map_eq_some_iff.1 he
        rfl
    obtain ⟨last, hlast, htidy', hbare, hreach⟩ := ih hparts (hf.entry? hpart he)
      (hpath ▸ tidy_within htidy hf.text_ne hpart) hg
    refine ⟨last, hlast, htidy', ?_, hreach⟩
    rw [hbare, hpath, bare_within hf.text_ne hpart]
    cases hc : Path.component? part <;> simp [hc]

theorem exists_of_mem_reach_join (hbase : base.WellFormed) (hhere : base.here.isDirectory)
    (hliteral : IsLiteral d) (hfirst : (Path.segments ⟨inner⟩).head? ≠ some "")
    (hlast : (Path.segments ⟨inner⟩).getLast? ≠ some "") (hup : NeverUp ⟨inner⟩)
    (hsteps : steps (d.join inner) = .ok all)
    (hg : g ∈ reach all (startOf base (d.join inner))) :
    ∃ (rest : List Step) (e : Found), rest ⊆ all ∧ (∀ step ∈ rest, ¬ step.LeadsUp) ∧
      e.Leads base ∧ Tidy False e.path ∧ e.path.bare = d.bare ∧ g ∈ reach rest e := by
  have hleads := leads_startOf hbase hhere (d.join inner)
  have htidy : Tidy False (startOf base (d.join inner)).path := tidy_startOf base _
  have hstart : startOf base (d.join inner) = startOf base d :=
    startOf_eq_of_isAbsolute (Path.isAbsolute_join_of_head? hfirst)
  by_cases hd : d.text = ""
  · have hjoin : d.join inner = ⟨inner⟩ := by simp [Path.join, hd]
    have hempty : d.bare = (startOf base d).path.bare := by
      rw [bare_startOf, Path.bare_eq, Path.segments, hd]
      simp [Path.splitSlashes, Path.component?]
    rw [hjoin] at hsteps
    exact ⟨all, _, List.Subset.refl _, not_leadsUp_of_mem_steps hup hsteps, hleads, htidy,
      by rw [hstart, hempty], hg⟩
  · obtain ⟨rest, rfl, hnever⟩ := exists_of_steps_join hd hliteral hfirst hlast hup hsteps
    obtain ⟨e, he, htidy', hbare, hg⟩ := exists_of_mem_reach_names
      (fun part hpart => Path.notMem_of_mem_parts (mem_parts_of_mem_leading hpart)) hleads htidy hg
    rw [hstart, ← bare_eq_leading] at hbare
    exact ⟨rest, e, List.subset_append_right _ _, hnever, he, htidy', hbare, hg⟩

theorem continues_of_mem_reach_join (hbase : base.WellFormed) (hhere : base.here.isDirectory)
    (hliteral : IsLiteral d) (hfirst : (Path.segments ⟨inner⟩).head? ≠ some "")
    (hlast : (Path.segments ⟨inner⟩).getLast? ≠ some "") (hup : NeverUp ⟨inner⟩)
    (hsteps : steps (d.join inner) = .ok all)
    (hg : g ∈ reach all (startOf base (d.join inner))) : Continues False d g.path := by
  obtain ⟨rest, e, hrest, hnever, he, htidy, hbare, hg⟩ :=
    exists_of_mem_reach_join hbase hhere hliteral hfirst hlast hup hsteps hg
  have hall : ∀ step ∈ rest, step.IsSingle ∧ (step.LeadsUp → False) := fun step hstep =>
    ⟨isSingle_of_mem_steps hsteps (hrest hstep), hnever step hstep⟩
  rw [← List.append_nil d.bare] at hbare
  exact (continues_of_mem_reach hall he ⟨⟨[], hbare, List.forall_mem_nil _⟩, htidy⟩ g hg).2

end LookML.Glob
