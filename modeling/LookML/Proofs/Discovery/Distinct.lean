import LookML.Proofs.Discovery.Directory
import LookML.Proofs.FileTree.Address
import LookML.Proofs.Glob.Literal
/-!
# Files that are found once

A search tells files by the components of their paths. Two paths that lead to one file differ in
going up, or in a dot at the start. So each file is found once where no path can do either.
-/

namespace LookML.Discovery

open FileTree (Place)
open Search (start)

variable {top : FileTree} {here : List String} {base : Place} {path file p q front : Path}
  {exclusions : List String} {admits : Path → Bool} {d : Discovery} {up : Prop}

/-- Nothing that the include asks for leads to the directory above. -/
def StaysInside (pattern : String) : Prop :=
  ∀ full ∈ includePattern? ⟨""⟩ pattern, Glob.NeverUp full

instance (pattern : String) : Decidable (StaysInside pattern) :=
  inferInstanceAs (Decidable (∀ full ∈ includePattern? ⟨""⟩ pattern, Glob.NeverUp full))

abbrev DiscoveredFrom (base : Place) (path : Path) (admits : Path → Bool) (file : Path) : Prop :=
  Discovered base (projectDirectory base path) admits (Initial base path) file

/-! ## Ways to a file -/

theorem neverUp_stars : ∀ ending ∈ endings, (Path.segments ⟨"**/*" ++ ending⟩).head? ≠ some "" ∧
    (Path.segments ⟨"**/*" ++ ending⟩).getLast? ≠ some "" ∧
      Glob.NeverUp ⟨"**/*" ++ ending⟩ := by
  decide +kernel

theorem exists_reach_of_expand {pattern : Path} {found : List Path}
    (h : expand base pattern = .ok found) (hfile : file ∈ found) :
    ∃ all g, Glob.steps pattern = .ok all ∧ g ∈ Glob.reach all (Glob.startOf base pattern) ∧
      g.path = file := by
  obtain ⟨all, hsteps, rfl⟩ := expand_eq_ok.1 h
  obtain ⟨g, hg, rfl⟩ := List.mem_map.1 (List.mem_filter.1 (List.mem_mergeSort.1 hfile)).1
  exact ⟨all, g, hsteps, hg, rfl⟩

/-- A file that is discovered is the one that the search begins with, or a pattern names it that
begins with the root and goes on without leading up, unless an include leads up. -/
theorem exists_pattern (h : DiscoveredFrom base path admits file) :
    (base.hasFile path ∧ file = path) ∨ ∃ inner found,
      (Path.segments ⟨inner⟩).head? ≠ some "" ∧ (Path.segments ⟨inner⟩).getLast? ≠ some "" ∧
      expand base ((projectDirectory base path).join inner) = .ok found ∧ file ∈ found ∧
      ((∀ model, DiscoveredFrom base path admits model →
        ∀ pattern ∈ includes base model, StaysInside pattern) → Glob.NeverUp ⟨inner⟩) := by
  cases h with
  | initial h =>
    obtain ⟨hdirectory, ending, hending, found, hfound, hfile⟩ | hlone := h
    · have htext : path.text ≠ "" := by
        obtain ⟨q, hq, -⟩ := (Option.any_eq_true _ _).1 hdirectory
        exact (Place.follow?_eq_some_iff.1 hq).1
      have hroot : projectDirectory base path = path := by
        rw [projectDirectory, if_neg (by simp [hasFile_eq_false hdirectory])]
      rw [join_stars htext] at hfound
      obtain ⟨hfirst, hlast, hup⟩ := neverUp_stars ending hending
      rw [hroot]
      exact .inr ⟨_, found, hfirst, hlast, hfound, hfile, fun _ => hup⟩
    · exact .inl hlone
  | @included model file hmodel hincludes =>
    obtain ⟨pattern, hpattern, hfile⟩ := List.mem_flatMap.1 (includes_iff.1 hincludes)
    obtain ⟨full, found, hfull, hfound, hfile⟩ := mem_named_iff.1 hfile
    obtain ⟨inner, rfl, hinner, hfirst, hlast⟩ := exists_inner hfull
    exact .inr ⟨inner, found, hfirst, hlast, hfound, hfile,
      fun hstays => hstays model hmodel pattern hpattern _ hinner⟩

theorem isAbsolute_projectDirectory (base : Place) (path : Path) :
    (projectDirectory base path).isAbsolute = path.isAbsolute := by
  unfold projectDirectory
  split
  · exact path.isAbsolute_parent
  · rfl

theorem isLiteral_projectDirectory (h : Glob.IsLiteral path) :
    Glob.IsLiteral (projectDirectory base path) := by
  unfold projectDirectory
  split
  · intro part hpart
    obtain rfl | hpart := Path.mem_segments_parent hpart
    · simp
    · exact h part hpart
  · exact h

theorem continues_start (hbase : base.WellFormed) (hhere : base.here.isDirectory)
    (hdot : file = path → .current ∉ path.components)
    (h : DiscoveredFrom base path admits file) :
    Glob.Continues True (Glob.startOf base path).path file := by
  obtain ⟨-, rfl⟩ | ⟨inner, found, hfirst, -, hfound, hfile, -⟩ := exists_pattern h
  · exact Glob.continues_startOf base (hdot rfl)
  · obtain ⟨all, g, hsteps, hg, rfl⟩ := exists_reach_of_expand hfound hfile
    have hstart : Glob.startOf base ((projectDirectory base path).join inner) =
        Glob.startOf base path :=
      Glob.startOf_eq_of_isAbsolute
        ((Path.isAbsolute_join_of_head? hfirst).trans (isAbsolute_projectDirectory base path))
    have hall : ∀ step ∈ all, step.IsSingle ∧ (step.LeadsUp → True) :=
      fun _ hstep => ⟨Glob.isSingle_of_mem_steps hsteps hstep, fun _ => trivial⟩
    rw [hstart] at hg
    exact (Glob.continues_of_mem_reach hall (Glob.leads_startOf hbase hhere path)
      (Glob.continues_refl (Glob.tidy_startOf base path)) g hg).2

theorem continues_root (hbase : base.WellFormed) (hhere : base.here.isDirectory)
    (hliteral : Glob.IsLiteral path) (hdot : file = path → .current ∉ path.components)
    (hstays : ∀ model, DiscoveredFrom base path admits model →
      ∀ pattern ∈ includes base model, StaysInside pattern)
    (h : DiscoveredFrom base path admits file) :
    Glob.Continues False (projectDirectory base path) file := by
  obtain ⟨hpath, rfl⟩ | ⟨inner, found, hfirst, hlast, hfound, hfile, hup⟩ := exists_pattern h
  · rw [projectDirectory, if_pos hpath]
    exact Glob.continues_parent hbase hpath (hdot rfl)
  · obtain ⟨all, g, hsteps, hg, rfl⟩ := exists_reach_of_expand hfound hfile
    exact Glob.continues_of_mem_reach_join hbase hhere (isLiteral_projectDirectory hliteral) hfirst
      hlast (hup hstays) hsteps hg

/-! ## One path for each file -/

theorem components_ne_current (hhere : base.here.isDirectory) (h : base.hasFile p) :
    p.components ≠ [.current] := by
  intro hcurrent
  obtain ⟨q, hq, hisFile⟩ := (Option.any_eq_true _ _).1 h
  cases Place.follow?_of_components_eq_current hcurrent hq
  cases hbase : base.here <;> simp_all [FileTree.isFile, FileTree.isDirectory]

/-- Paths that go on from one path by names only lead to different places if they differ. -/
theorem components_eq_of_address (hp : Glob.Continues up front p) (hq : Glob.Continues up front q)
    (hupp : up → .parent ∉ p.components) (hupq : up → .parent ∉ q.components)
    (hcurrentp : p.components ≠ [.current]) (hcurrentq : q.components ≠ [.current])
    (h : p.address here = q.address here) : p.components = q.components := by
  obtain ⟨names, hnames⟩ := hp.exists_names hupp hcurrentp
  obtain ⟨names', hnames'⟩ := hq.exists_names hupq hcurrentq
  rw [Path.address_of_components hnames, Path.address_of_components hnames'] at h
  rw [hnames, hnames', List.append_cancel_left h]

theorem eq_of_mem_files (h : run base path exclusions = .ok d) (hp : p ∈ d.files) (hq : q ∈ d.files)
    (hcomponents : p.components = q.components) : p = q :=
  List.inj_on_of_nodup_map (complete_of_run h).distinct hp hq hcomponents

/-- Paths of one file among those found: one of them leads up, or begins with a dot. -/
theorem parent_or_current_of_address (hbase : base.WellFormed) (hhere : base.here.isDirectory)
    (h : run base path exclusions = .ok d) (hp : p ∈ d.files) (hq : q ∈ d.files) (hne : p ≠ q)
    (haddress : p.address here = q.address here) :
    .parent ∈ p.components ∨ .parent ∈ q.components ∨
      path ∈ [p, q] ∧ .current ∈ path.components := by
  by_contra hnone
  push Not at hnone
  obtain ⟨hparentp, hparentq, hdot⟩ := hnone
  have hsound := (complete_of_run h).sound
  have hcurrent : ∀ r ∈ d.files, r.components ≠ [.current] := fun r hr =>
    components_ne_current hhere (hasFile_of_run h r hr)
  have hcontp : Glob.Continues True (Glob.startOf base path).path p :=
    continues_start hbase hhere (fun heq => hdot (by simp [heq])) (hsound p hp)
  have hcontq : Glob.Continues True (Glob.startOf base path).path q :=
    continues_start hbase hhere (fun heq => hdot (by simp [heq])) (hsound q hq)
  refine hne (eq_of_mem_files h hp hq ?_)
  exact components_eq_of_address hcontp hcontq (fun _ => hparentp) (fun _ => hparentq)
    (hcurrent p hp) (hcurrent q hq) haddress

/-- No file can be found in two ways: the path means nothing else as a pattern, it does not begin
with a dot if it is a file's, and no include leads up. -/
structure IsStraight (base : Place) (path : Path) (files : List Path) : Prop where
  literal : Glob.IsLiteral path
  dotless : path ∈ files → .current ∉ path.components
  includes : ∀ model ∈ files, ∀ pattern ∈ includes base model, StaysInside pattern

theorem nodup_address (hbase : base.WellFormed) (hhere : base.here.isDirectory)
    (h : run base path exclusions = .ok d) (hstraight : IsStraight base path d.files) :
    (d.files.map (Path.address here)).Nodup := by
  have hcomplete := complete_of_run h
  have hfile := hasFile_of_run h
  have hstays : ∀ model,
      DiscoveredFrom base path (isAdmitted (projectDirectory base path) exclusions) model →
        ∀ pattern ∈ includes base model, StaysInside pattern := by
    intro model hmodel
    obtain ⟨m, hm, hcomponents⟩ := List.mem_map.1 (hcomplete.complete model hmodel)
    have hmodelFile : base.hasFile model :=
      hmodel.hasFile fun _ => hasFile_of_initial
    rw [← includes_eq_of_same hcomponents (hfile m hm) hmodelFile]
    exact hstraight.includes m hm
  have hcontinues : ∀ p ∈ d.files, Glob.Continues False (projectDirectory base path) p :=
    fun p hp => continues_root hbase hhere hstraight.literal
      (fun heq => hstraight.dotless (heq ▸ hp)) hstays (hcomplete.sound p hp)
  refine (List.Nodup.of_map _ hcomplete.distinct).map_on fun p hp q hq haddress => ?_
  exact eq_of_mem_files h hp hq (components_eq_of_address (hcontinues p hp)
    (hcontinues q hq) False.elim False.elim (components_ne_current hhere (hfile p hp))
      (components_ne_current hhere (hfile q hq)) haddress)

/-- Each file that is found is at the address of its path. Two of them at one address are one file
found in two ways, and then one of the paths leads up, or is the path of the run and begins with a
dot. If no include leads up, that does not happen. -/
theorem run_finds_once (htop : top.WellFormed) (hat : base.StandsAt top here)
    (hhere : base.here.isDirectory) (h : run base path exclusions = .ok d) :
    (∀ p ∈ d.files, ∃ content above, base.follow? p = some ⟨.file content, above⟩ ∧
      Place.StandsAt top (p.address here) ⟨.file content, above⟩) ∧
    (∀ p ∈ d.files, ∀ q ∈ d.files, p ≠ q → p.address here = q.address here →
      .parent ∈ p.components ∨ .parent ∈ q.components ∨
        path ∈ [p, q] ∧ .current ∈ path.components) ∧
    (IsStraight base path d.files → (d.files.map (Path.address here)).Nodup) := by
  have hbase := hat.wellFormed htop
  refine ⟨fun p hp => ?_, fun p hp q hq => parent_or_current_of_address hbase hhere h hp hq,
    nodup_address hbase hhere h⟩
  obtain ⟨⟨t, above⟩, hfollow, hfile⟩ :=
    (Option.any_eq_true _ _).1 (hasFile_of_run h p hp)
  cases t with
  | file content => exact ⟨content, above, hfollow, hat.follow? hfollow⟩
  | directory entries => cases hfile

theorem isStraight_shopFiles :
    IsStraight shopFiles ⟨"shop.model.lkml"⟩ shopDiscovery.files where
  literal := by decide
  dotless _ := by decide
  includes := by
    have hinside : ∀ pattern ∈ ["base.model", "//other/c.view", "missing", "/shop.model.lkml",
        "*.view"], StaysInside pattern := by
      decide +kernel
    intro model hmodel pattern hpattern
    refine hinside pattern ?_
    simp only [shopDiscovery, List.mem_cons, List.not_mem_nil, or_false] at hmodel
    rcases hmodel with rfl | rfl | rfl
    · simp [includes_shopFiles] at hpattern
    · simp only [includes_shopFiles] at hpattern
      exact List.mem_append_right ["base.model", "//other/c.view", "missing"] hpattern
    · simp only [includes_shopFiles] at hpattern
      exact List.mem_append_left ["/shop.model.lkml", "*.view"] hpattern

theorem run_finds_once_shopFiles :
    shopFiles.here.WellFormed ∧ shopFiles.StandsAt shopFiles.here [] ∧
      shopFiles.here.isDirectory ∧
      run shopFiles ⟨"shop.model.lkml"⟩ ["old*"] = .ok shopDiscovery ∧
      IsStraight shopFiles ⟨"shop.model.lkml"⟩ shopDiscovery.files ∧
      (shopDiscovery.files.map (Path.address [])).Nodup := by
  have hat : shopFiles.StandsAt shopFiles.here [] := .top
  have hfinds := run_finds_once wellFormed_shopFiles.here hat rfl run_shopFiles
  exact ⟨wellFormed_shopFiles.here, hat, rfl, run_shopFiles, isStraight_shopFiles,
    hfinds.2.2 isStraight_shopFiles⟩

/-! ## A file that includes itself, up and down again -/

def roundModel : String :=
  "include: \"a/../m.model\""

def roundFiles : Place where
  here := .directory [("a", .directory []), ("m.model.lkml", .file roundModel.toUTF8)]
  above := []

theorem read_roundFiles : ∀ file ∈ [Path.mk "m.model.lkml", Path.mk "a/../m.model.lkml"],
    (roundFiles.read file).toOption = some roundModel := by
  decide

theorem includes_roundFiles {file : Path}
    (hfile : file ∈ [Path.mk "m.model.lkml", Path.mk "a/../m.model.lkml"]) :
    includes roundFiles file = ["a/../m.model"] := by
  have hfiles : ∀ file ∈ [Path.mk "m.model.lkml", Path.mk "a/../m.model.lkml"],
      file.fileName? = some "m.model.lkml" ∧ (Token.scan file.text roundModel).toOption =
        some (Grammar.itemTokens [includeLine 1 "a/../m.model"] ++
          [⟨.endOfInput, ⟨1, 24⟩, ⟨1, 24⟩⟩]) := by
    decide +kernel
  obtain ⟨hname, hscan⟩ := hfiles file hfile
  exact includes_of_scan hname (by decide) (read_roundFiles file hfile) hscan (by decide)

theorem foundBy_roundFiles {file : Path}
    (hfile : file ∈ [Path.mk "m.model.lkml", Path.mk "a/../m.model.lkml"]) :
    (∀ pattern ∈ includes roundFiles file, Expands roundFiles ⟨""⟩ pattern) ∧
      foundBy roundFiles ⟨""⟩ file = [⟨"a/../m.model.lkml"⟩] ∧
      unmatchedOf roundFiles ⟨""⟩ file = [] := by
  have hpattern : includePattern? ⟨""⟩ "a/../m.model" = some ⟨"a/../m.model.lkml"⟩ := by
    decide
  have hexpand : expand roundFiles ⟨"a/../m.model.lkml"⟩ = .ok [⟨"a/../m.model.lkml"⟩] :=
    expand_of_toOption (by decide +kernel) (by decide)
  simp [foundBy, unmatchedOf, includes_roundFiles hfile, named_of_expand hpattern hexpand]

theorem search_roundFiles :
    Search.run roundFiles ⟨""⟩ (isAdmitted ⟨""⟩ []) 2
      (start (isAdmitted ⟨""⟩ []) [⟨"m.model.lkml"⟩]) =
        .ok ⟨[⟨"a/../m.model.lkml"⟩, ⟨"m.model.lkml"⟩], [], []⟩ := by
  have hadmits (file : Path) : isAdmitted ⟨""⟩ [] file = true := rfl
  have hnew : Path.same ⟨"a/../m.model.lkml"⟩ ⟨"m.model.lkml"⟩ = false := by decide
  have hknown (p : Path) : p.same p = true := Path.same_iff.2 rfl
  obtain ⟨hexpands, hfound, hmissing⟩ := foundBy_roundFiles List.mem_cons_self
  obtain ⟨hexpands', hfound', hmissing'⟩ :=
    foundBy_roundFiles (List.mem_cons_of_mem _ List.mem_cons_self)
  have hstart : start (isAdmitted ⟨""⟩ []) [⟨"m.model.lkml"⟩] =
      ⟨[⟨"m.model.lkml"⟩], [⟨"m.model.lkml"⟩], []⟩ := by
    simp [start, Search.add, hadmits]
  have hafter : Search.taking (isAdmitted ⟨""⟩ []) ⟨[⟨"m.model.lkml"⟩], [], []⟩
      [⟨"a/../m.model.lkml"⟩] [] =
        ⟨[⟨"a/../m.model.lkml"⟩, ⟨"m.model.lkml"⟩], [⟨"a/../m.model.lkml"⟩], []⟩ := by
    simp [Search.taking, Search.add, hadmits, hnew, -Path.same_iff]
  rw [hstart, Search.run_cons rfl hexpands, hfound, hmissing, hafter,
    Search.run_cons rfl hexpands', hfound', hmissing']
  simp [Search.run, Search.taking, Search.add, hadmits, hknown, -Path.same_iff]

/-- The model file is found as itself and as what it includes, and both are read. -/
theorem run_roundFiles :
    roundFiles.here.WellFormed ∧ roundFiles.StandsAt roundFiles.here [] ∧
      ∃ d, run roundFiles ⟨"m.model.lkml"⟩ [] = .ok d ∧
        d.files = [⟨"a/../m.model.lkml"⟩, ⟨"m.model.lkml"⟩] ∧
        Path.address [] ⟨"a/../m.model.lkml"⟩ = Path.address [] ⟨"m.model.lkml"⟩ ∧
        d.sources roundFiles =
          [⟨"a/../m.model.lkml", roundModel⟩, ⟨"m.model.lkml", roundModel⟩] := by
  have hwell : roundFiles.here.WellFormed :=
    .directory (by decide) (by decide)
      (by simp [FileTree.WellFormed.file, FileTree.WellFormed.directory])
  have hparent : Path.parent ⟨"m.model.lkml"⟩ = ⟨""⟩ := by decide
  have hsearch := search_roundFiles
  rw [← hparent] at hsearch
  have hsorted : sortPaths [⟨"a/../m.model.lkml"⟩, ⟨"m.model.lkml"⟩] =
      [⟨"a/../m.model.lkml"⟩, ⟨"m.model.lkml"⟩] :=
    List.mergeSort_of_pairwise (by decide)
  have hread : ∀ file ∈ [Path.mk "m.model.lkml", Path.mk "a/../m.model.lkml"],
      roundFiles.read file = .ok roundModel :=
    fun file hfile => eq_ok_of_toOption (read_roundFiles file hfile)
  have hrelative : Path.relativeTo ⟨""⟩ ⟨"m.model.lkml"⟩ = "m.model.lkml" ∧
      Path.relativeTo ⟨""⟩ ⟨"a/../m.model.lkml"⟩ = "a/../m.model.lkml" := by
    decide
  refine ⟨hwell, .top, _, run_of_search (by decide) (by simp) hsearch rfl, hsorted,
    by decide, ?_⟩
  simp [sources, relative, hsorted, hparent, hread, hrelative]

end LookML.Discovery
