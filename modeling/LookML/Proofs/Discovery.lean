import LookML.Library
import LookML.Proofs.Discovery.Closure
/-!
# The files of a project are a least closed set

The files of a project are those it begins with and all that model files among them include, each
once and in order, but for the excluded ones. The includes that name nothing are reported once for
each time they stand in such a model file. In which order files are served makes no difference.
-/

namespace LookML.Discovery

open FileTree (Place)
open Search (Step start)

/-- By file, then by pattern. -/
def unmatchedOrder (a b : String × String) : Ordering :=
  (compare a.1 b.1).then (compare a.2 b.2)

def sortUnmatched (unmatched : List (String × String)) : List (String × String) :=
  unmatched.mergeSort fun a b => (unmatchedOrder a b).isLE

variable {base : Place} {path : Path} {exclusions : List String} {d : Discovery}

/-! ## Order -/

theorem pairwise_sortPaths {paths : List Path} (h : (paths.map Path.components).Nodup) :
    (sortPaths paths).Pairwise fun p q => p.order q = .lt := by
  have hsorted : (sortPaths paths).Pairwise fun p q => (p.order q).isLE :=
    pairwise_mergeSort_isLE paths
  have hdistinct : ((sortPaths paths).map Path.components).Nodup :=
    ((List.mergeSort_perm paths _).map Path.components).nodup_iff.2 h
  refine (hsorted.and (List.pairwise_map.1 hdistinct)).imp ?_
  rintro p q ⟨hle, hne⟩
  cases horder : p.order q with
  | lt => rfl
  | eq => exact absurd (Path.components_eq_of_order horder) hne
  | gt =>
    rw [horder] at hle
    cases hle

theorem unmatchedOrder_eq_compareLex :
    unmatchedOrder = compareLex (compareOn Prod.fst) (compareOn Prod.snd) := rfl

instance : Std.TransCmp unmatchedOrder := by
  rw [unmatchedOrder_eq_compareLex]
  infer_instance

theorem eq_of_unmatchedOrder {a b : String × String} (h : unmatchedOrder a b = .eq) : a = b := by
  simp only [unmatchedOrder, Ordering.then_eq_eq, Std.LawfulEqOrd.compare_eq_iff_eq] at h
  exact Prod.ext h.1 h.2

theorem sortUnmatched_eq_of_perm {unmatched unmatched' : List (String × String)}
    (h : unmatched.Perm unmatched') : sortUnmatched unmatched = sortUnmatched unmatched' := by
  simpa [sortUnmatched] using
    map_mergeSort_eq_of_perm (fun _ _ => eq_of_unmatchedOrder) id (h.map id)

theorem components_sortPaths_eq_of_perm {paths paths' : List Path}
    (h : (paths.map Path.components).Perm (paths'.map Path.components)) :
    (sortPaths paths).map Path.components = (sortPaths paths').map Path.components :=
  map_mergeSort_eq_of_perm (c := List.compareLex Path.Component.order)
    (fun _ _ => Std.LawfulEqCmp.eq_of_compare) Path.components h

theorem hasFile_eq_false (h : base.hasDirectory path) : base.hasFile path = false := by
  obtain ⟨p, hp, hdirectory⟩ := (Option.any_eq_true _ _).1 h
  rw [Place.hasFile, hp]
  cases hhere : p.here with
  | file content =>
    rw [hhere] at hdirectory
    cases hdirectory
  | directory entries => simp [hhere, FileTree.isFile]

/-! ## The run as a search -/

section Library

variable [GlobLibrary]

/-- A LookML file at any depth of the directory at the path, or the file at the path. -/
def Initial (base : Place) (path file : Path) : Prop :=
  (base.hasDirectory path ∧ ∃ ending ∈ endings, ∃ found,
    expand base ((path.join "**").join ("*" ++ ending)) = .ok found ∧ file ∈ found) ∨
  (base.hasFile path ∧ file = path)

/-- Whether the path of a file, seen from the root, matches no exclusion. -/
def isAdmitted (root : Path) (exclusions : List String) (file : Path) : Bool :=
  !exclusions.any fun pattern =>
    (GlobLibrary.compile pattern).toOption.any (· (root.relativeTo file))

theorem mem_lookmlFiles {directory : Path} {files : List Path}
    (h : lookmlFiles base directory = .ok files) (file : Path) : file ∈ files ↔
      ∃ ending ∈ endings, ∃ found,
        expand base ((directory.join "**").join ("*" ++ ending)) = .ok found ∧ file ∈ found := by
  obtain ⟨found, hfound, h⟩ := bind_eq_ok.1 h
  cases h
  have hmap := mapM_eq_ok.1 hfound
  rw [sortPaths, List.mem_mergeSort, List.mem_flatten]
  constructor
  · rintro ⟨paths, hpaths, hfile⟩
    obtain ⟨ending, hending, hexpand⟩ := List.mem_map.1 (hmap ▸ List.mem_map_of_mem hpaths)
    exact ⟨ending, hending, paths, hexpand, hfile⟩
  · rintro ⟨ending, hending, paths, hexpand, hfile⟩
    have hmem : Except.ok paths ∈ found.map Except.ok :=
      hmap ▸ List.mem_map.2 ⟨ending, hending, hexpand⟩
    obtain ⟨paths', hpaths, heq⟩ := List.mem_map.1 hmem
    cases heq
    exact ⟨paths, hpaths, hfile⟩

def readExclusion (pattern : String) : Except Error (String → Bool) :=
  (GlobLibrary.compile pattern).mapError (.badExclusion pattern)

theorem isAdmitted_of_mapM {excluded : List (String → Bool)}
    (h : exclusions.mapM readExclusion = .ok excluded) (root : Path) :
    (fun file => !excluded.any (· (root.relativeTo file))) = isAdmitted root exclusions := by
  funext file
  rw [← filterMap_of_mapM h, List.any_filterMap, isAdmitted]
  congr 2
  funext pattern
  unfold readExclusion
  cases GlobLibrary.compile pattern <;> rfl

theorem exists_search (h : run base path exclusions = .ok d) : ∃ first s,
    (∀ file, file ∈ first ↔ Initial base path file) ∧
      Search.run base (projectDirectory base path)
        (isAdmitted (projectDirectory base path) exclusions)
        (first.length + (reachable base (projectDirectory base path)).length)
        (start (isAdmitted (projectDirectory base path) exclusions) first) = .ok s ∧
      d = ⟨projectDirectory base path, sortPaths s.seen, sortUnmatched s.unmatched⟩ := by
  unfold run at h
  extract_lets rest at h
  have hbegin : ∃ first, (∀ file, file ∈ first ↔ Initial base path file) ∧
      rest (projectDirectory base path, first) = .ok d := by
    split at h
    · rename_i hdirectory
      obtain ⟨first, hfirst, h⟩ := bind_eq_ok.1 h
      have hfile := hasFile_eq_false hdirectory
      rw [projectDirectory, if_neg (by simp [hfile])]
      refine ⟨first, fun file => ?_, h⟩
      rw [mem_lookmlFiles hfirst, Initial, hfile]
      simp [hdirectory]
    · rename_i hdirectory
      split at h
      · rename_i hfile
        rw [projectDirectory, if_pos hfile]
        refine ⟨[path], fun file => ?_, h⟩
        simp [Initial, hdirectory, hfile]
      · cases h
  obtain ⟨first, hfirst, h⟩ := hbegin
  obtain ⟨excluded, hexcluded, h⟩ := bind_eq_ok.1 h
  obtain ⟨s, hs, h⟩ := bind_eq_ok.1 h
  cases h
  rw [isAdmitted_of_mapM hexcluded] at hs
  exact ⟨first, s, hfirst, hs, rfl⟩

theorem run_of_search {s : Search} {n : Nat} (hfile : base.hasFile path)
    (hexclusions : ∀ pattern ∈ exclusions, ∃ matched, GlobLibrary.compile pattern = .ok matched)
    (h : Search.run base path.parent (isAdmitted path.parent exclusions) n
      (start (isAdmitted path.parent exclusions) [path]) = .ok s) (hqueue : s.queue = []) :
    run base path exclusions =
      .ok ⟨path.parent, sortPaths s.seen, sortUnmatched s.unmatched⟩ := by
  have hdirectory : ¬ base.hasDirectory path := by
    intro hdirectory
    rw [hasFile_eq_false hdirectory] at hfile
    cases hfile
  obtain ⟨excluded, hexcluded⟩ : ∃ excluded, exclusions.mapM readExclusion = .ok excluded := by
    refine exists_mapM_eq_ok fun pattern hpattern => ?_
    obtain ⟨g, hg⟩ := hexclusions pattern hpattern
    exact ⟨g, by rw [readExclusion, hg]; rfl⟩
  have hbound := Search.run_eq_of_remaining_le h hqueue (Search.remaining_start_le _ _ _ _)
  rw [← isAdmitted_of_mapM hexcluded] at hbound
  unfold run
  rw [if_neg hdirectory, if_pos hfile]
  refine bind_eq_ok.2 ⟨(path.parent, [path]), rfl, ?_⟩
  exact bind_eq_ok.2 ⟨excluded, hexcluded, bind_eq_ok.2 ⟨s, hbound, rfl⟩⟩

/-- What the files of a project are, said without a search, and what every search for them comes
to. Paths with the same components are one file, however they are written. -/
structure IsClosure (base : Place) (path : Path) (exclusions : List String) (d : Discovery) :
    Prop where
  root : d.root = projectDirectory base path
  sound : ∀ file ∈ d.files,
    Discovered base d.root (isAdmitted d.root exclusions) (Initial base path) file
  complete : ∀ file,
    Discovered base d.root (isAdmitted d.root exclusions) (Initial base path) file →
      ∃ p ∈ d.files, p.same file
  sorted : d.files.Pairwise fun p q => p.order q = .lt
  /-- each include of each of the files, as often as it is written, if it names nothing -/
  unmatched : d.unmatched.Perm (d.files.flatMap (unmatchedOf base d.root))
  unmatchedSorted : d.unmatched.Pairwise fun a b => (unmatchedOrder a b).isLE
  /-- whichever queued file is served next, none fails, and all ways end alike -/
  anyOrder : ∀ first, (∀ file, file ∈ first ↔ Initial base path file) → ∀ s,
    Relation.ReflTransGen (Step base d.root (isAdmitted d.root exclusions))
      (start (isAdmitted d.root exclusions) first) s →
    (∀ before file after, s.queue = before ++ file :: after →
      ∃ t, (includes base file).foldlM
        (Search.follow base d.root (isAdmitted d.root exclusions) file)
        { s with queue := before ++ after } = .ok t) ∧
    (s.queue = [] → (sortPaths s.seen).map Path.components = d.files.map Path.components ∧
      sortUnmatched s.unmatched = d.unmatched)

theorem hasFile_of_initial {file : Path} (h : Initial base path file) : base.hasFile file := by
  obtain ⟨-, ending, -, found, hfound, hfile⟩ | ⟨hpath, rfl⟩ := h
  · exact hasFile_of_expand hfound hfile
  · exact hpath

/-- Whatever files the library finds for a pattern, every way of following includes ends, and a run
that finds all it looks for has found the closure. -/
theorem run_isClosure (base : Place) (path : Path) (exclusions : List String) :
    (∀ root admits, WellFounded fun t s => Step base root admits s t) ∧
      ∀ d, run base path exclusions = .ok d → IsClosure base path exclusions d := by
  refine ⟨Search.wellFounded_step base, fun d h => ?_⟩
  obtain ⟨first, s, hfirst, hrun, rfl⟩ := exists_search h
  obtain ⟨hsteps, hend⟩ := Search.steps_of_run hrun
  obtain ⟨done, hdone⟩ := progress_of_steps hfirst hsteps
  have hfiles : ∀ file, Discovered base (projectDirectory base path)
      (isAdmitted (projectDirectory base path) exclusions) (Initial base path) file →
        base.hasFile file :=
    fun _ => Discovered.hasFile fun _ => hasFile_of_initial
  have hcomplete := hdone.finish (hend (Search.remaining_start_le _ _ _ _)) hfiles
  exact
    { root := rfl
      sound := fun file hfile => hcomplete.sound file (List.mem_mergeSort.1 hfile)
      complete := fun file hfile => by
        obtain ⟨p, hp, hcomponents⟩ := List.mem_map.1 (hcomplete.complete file hfile)
        exact ⟨p, List.mem_mergeSort.2 hp, Path.same_iff.2 hcomponents⟩
      sorted := pairwise_sortPaths hcomplete.distinct
      unmatched := (List.mergeSort_perm _ _).trans
        (hcomplete.unmatched.trans ((List.mergeSort_perm _ _).symm.flatMap_right _))
      unmatchedSorted := pairwise_mergeSort_isLE s.unmatched
      anyOrder := fun first' hfirst' u hu => by
        obtain ⟨done', hdone'⟩ := progress_of_steps hfirst' hu
        refine ⟨fun before file after hqueue => ?_, fun hqueue => ?_⟩
        · have hfile : file ∈ u.seen := hdone'.seen.mem_iff.2 (by simp [hqueue])
          have hexpands := hcomplete.expands file (hdone'.sound file hfile)
          exact ⟨_, Search.foldlM_follow_eq_ok.2 ⟨hexpands, rfl⟩⟩
        · obtain ⟨hseen, hunmatched⟩ := (hdone'.finish hqueue hfiles).perm hcomplete hfiles
          exact ⟨components_sortPaths_eq_of_perm hseen, sortUnmatched_eq_of_perm hunmatched⟩ }

theorem expand_of_toOption {pattern : Path} {paths : List Path}
    (h : (globFiles base pattern).toOption = some paths)
    (hsorted : paths.Pairwise fun p q => (p.order q).isLE) : expand base pattern = .ok paths := by
  rw [expand, eq_ok_of_toOption h]
  exact congrArg Except.ok (List.mergeSort_of_pairwise hsorted)

end Library

/-! ## Model files that include each other -/

def includeLine (line : Nat) (pattern : String) : Grammar.Item :=
  .scalar "include" ⟨⟨line, 1⟩, ⟨line, 8⟩⟩ ⟨⟨line, 8⟩, ⟨line, 9⟩⟩
    (.quoted pattern ⟨⟨line, 10⟩, ⟨line, 12 + pattern.length⟩⟩)

theorem includes_of_scan {base : Place} {file : Path} {name text : String} {p : Position}
    {is : List Grammar.Item} (hname : file.fileName? = some name)
    (hmodel : Document.isModelName name) (hread : (base.read file).toOption = some text)
    (hscan : (Token.scan file.text text).toOption =
      some (Grammar.itemTokens is ++ [⟨.endOfInput, p, p⟩]))
    (hnesting : Grammar.itemNesting is ≤ maxNesting) :
    includes base file = is.flatMap Grammar.Item.includes := by
  have hparse := Document.parse_of_scan (eq_ok_of_toOption hscan) rfl hnesting
  simp [includes, includesIn, hname, hmodel, eq_ok_of_toOption hread, hparse,
    Grammar.includes_document]

def shopModel : String :=
  "include: \"base.model\"\ninclude: \"//other/c.view\"\ninclude: \"missing\""

def baseModel : String :=
  "include: \"/shop.model.lkml\"\ninclude: \"*.view\""

def shopFiles : Place where
  here := .directory
    [("accounts.view.lkml", .file "".toUTF8), ("base.model.lkml", .file baseModel.toUTF8),
      ("old.view.lkml", .file "".toUTF8), ("shop.model.lkml", .file shopModel.toUTF8)]
  above := []

theorem wellFormed_shopFiles : shopFiles.WellFormed where
  here := .directory (by decide) (by decide) (by simp [FileTree.WellFormed.file])
  above := List.forall_mem_nil _

theorem includes_shopFiles :
    includes shopFiles ⟨"shop.model.lkml"⟩ = ["base.model", "//other/c.view", "missing"] ∧
      includes shopFiles ⟨"base.model.lkml"⟩ = ["/shop.model.lkml", "*.view"] ∧
      includes shopFiles ⟨"accounts.view.lkml"⟩ = [] := by
  have hscan : (Token.scan "shop.model.lkml" shopModel).toOption = some (Grammar.itemTokens
      [includeLine 1 "base.model", includeLine 2 "//other/c.view", includeLine 3 "missing"] ++
        [⟨.endOfInput, ⟨3, 19⟩, ⟨3, 19⟩⟩]) := by
    decide +kernel
  have hscan' : (Token.scan "base.model.lkml" baseModel).toOption = some (Grammar.itemTokens
      [includeLine 1 "/shop.model.lkml", includeLine 2 "*.view"] ++
        [⟨.endOfInput, ⟨2, 18⟩, ⟨2, 18⟩⟩]) := by
    decide +kernel
  have hname : Path.fileName? ⟨"shop.model.lkml"⟩ = some "shop.model.lkml" := by decide
  have hname' : Path.fileName? ⟨"base.model.lkml"⟩ = some "base.model.lkml" := by decide
  exact ⟨includes_of_scan hname (by decide) (by decide) hscan (by decide),
    includes_of_scan hname' (by decide) (by decide) hscan' (by decide), if_neg (by decide)⟩

theorem expand_shopFiles :
    expand shopFiles ⟨"base.model.lkml"⟩ = .ok [⟨"base.model.lkml"⟩] ∧
      expand shopFiles ⟨"missing.lkml"⟩ = .ok [] ∧
      expand shopFiles ⟨"shop.model.lkml"⟩ = .ok [⟨"shop.model.lkml"⟩] ∧
      expand shopFiles ⟨"*.view.lkml"⟩ = .ok [⟨"accounts.view.lkml"⟩, ⟨"old.view.lkml"⟩] :=
  ⟨expand_of_toOption (by decide +kernel) (by decide),
    expand_of_toOption (by decide +kernel) (by decide),
    expand_of_toOption (by decide +kernel) (by decide),
    expand_of_toOption (by decide +kernel) (by decide)⟩

theorem includePattern?_shopFiles :
    includePattern? ⟨""⟩ "base.model" = some ⟨"base.model.lkml"⟩ ∧
      includePattern? ⟨""⟩ "//other/c.view" = none ∧
      includePattern? ⟨""⟩ "missing" = some ⟨"missing.lkml"⟩ ∧
      includePattern? ⟨""⟩ "/shop.model.lkml" = some ⟨"shop.model.lkml"⟩ ∧
      includePattern? ⟨""⟩ "*.view" = some ⟨"*.view.lkml"⟩ := by
  decide

/-- The files found from the shop's model file, without the old ones. -/
def shopDiscovery : Discovery where
  root := ⟨""⟩
  files := [⟨"accounts.view.lkml"⟩, ⟨"base.model.lkml"⟩, ⟨"shop.model.lkml"⟩]
  unmatched := [("shop.model.lkml", "missing")]

theorem foundBy_shopFiles :
    ((∀ pattern ∈ includes shopFiles ⟨"shop.model.lkml"⟩, Expands shopFiles ⟨""⟩ pattern) ∧
      foundBy shopFiles ⟨""⟩ ⟨"shop.model.lkml"⟩ = [⟨"base.model.lkml"⟩] ∧
      unmatchedOf shopFiles ⟨""⟩ ⟨"shop.model.lkml"⟩ = [("shop.model.lkml", "missing")]) ∧
    ((∀ pattern ∈ includes shopFiles ⟨"base.model.lkml"⟩, Expands shopFiles ⟨""⟩ pattern) ∧
      foundBy shopFiles ⟨""⟩ ⟨"base.model.lkml"⟩ =
        [⟨"shop.model.lkml"⟩, ⟨"accounts.view.lkml"⟩, ⟨"old.view.lkml"⟩] ∧
      unmatchedOf shopFiles ⟨""⟩ ⟨"base.model.lkml"⟩ = []) ∧
    ((∀ pattern ∈ includes shopFiles ⟨"accounts.view.lkml"⟩, Expands shopFiles ⟨""⟩ pattern) ∧
      foundBy shopFiles ⟨""⟩ ⟨"accounts.view.lkml"⟩ = [] ∧
      unmatchedOf shopFiles ⟨""⟩ ⟨"accounts.view.lkml"⟩ = []) := by
  have hrelative : Path.relativeTo ⟨""⟩ ⟨"shop.model.lkml"⟩ = "shop.model.lkml" := by
    decide
  obtain ⟨hbase, hother, hmissing, hshop, hviews⟩ := includePattern?_shopFiles
  obtain ⟨hbase', hmissing', hshop', hviews'⟩ := expand_shopFiles
  simp [foundBy, unmatchedOf, includes_shopFiles, hrelative, named_of_expand hbase hbase',
    named_of_none shopFiles hother, named_of_expand hmissing hmissing',
    named_of_expand hshop hshop', named_of_expand hviews hviews']

theorem compile_old : GlobLibrary.compile "old*" =
    .ok (Glob.isMatch ⟨[.literal 'o', .literal 'l', .literal 'd', .sequence]⟩) := by
  have hparse :
      Glob.parse "old*" = .ok ⟨[.literal 'o', .literal 'l', .literal 'd', .sequence]⟩ :=
    eq_ok_of_toOption (by decide +kernel)
  change (Glob.isMatch <$> Glob.parse "old*").mapError Glob.Error.message = _
  rw [hparse]
  rfl

theorem isAdmitted_shopFiles :
    isAdmitted ⟨""⟩ ["old*"] ⟨"shop.model.lkml"⟩ = true ∧
      isAdmitted ⟨""⟩ ["old*"] ⟨"base.model.lkml"⟩ = true ∧
      isAdmitted ⟨""⟩ ["old*"] ⟨"accounts.view.lkml"⟩ = true ∧
      isAdmitted ⟨""⟩ ["old*"] ⟨"old.view.lkml"⟩ = false := by
  simp only [isAdmitted, List.any_cons, List.any_nil, compile_old]
  decide

theorem search_shopFiles :
    Search.run shopFiles ⟨""⟩ (isAdmitted ⟨""⟩ ["old*"]) 3
      (start (isAdmitted ⟨""⟩ ["old*"]) [⟨"shop.model.lkml"⟩]) =
        .ok ⟨shopDiscovery.files, [], shopDiscovery.unmatched⟩ := by
  have hsame : Path.same ⟨"base.model.lkml"⟩ ⟨"shop.model.lkml"⟩ = false ∧
      Path.same ⟨"accounts.view.lkml"⟩ ⟨"shop.model.lkml"⟩ = false ∧
      Path.same ⟨"accounts.view.lkml"⟩ ⟨"base.model.lkml"⟩ = false ∧
      Path.same ⟨"shop.model.lkml"⟩ ⟨"shop.model.lkml"⟩ = true := by
    decide
  have hstart : start (isAdmitted ⟨""⟩ ["old*"]) [⟨"shop.model.lkml"⟩] =
      ⟨[⟨"shop.model.lkml"⟩], [⟨"shop.model.lkml"⟩], []⟩ := by
    simp [start, Search.add, isAdmitted_shopFiles]
  have hafterShop : Search.taking (isAdmitted ⟨""⟩ ["old*"]) ⟨[⟨"shop.model.lkml"⟩], [], []⟩
      [⟨"base.model.lkml"⟩] [("shop.model.lkml", "missing")] =
        ⟨[⟨"base.model.lkml"⟩, ⟨"shop.model.lkml"⟩], [⟨"base.model.lkml"⟩],
          [("shop.model.lkml", "missing")]⟩ := by
    simp [Search.taking, Search.add, isAdmitted_shopFiles, hsame, -Path.same_iff]
  have hafterBase : Search.taking (isAdmitted ⟨""⟩ ["old*"])
      ⟨[⟨"base.model.lkml"⟩, ⟨"shop.model.lkml"⟩], [], [("shop.model.lkml", "missing")]⟩
      [⟨"shop.model.lkml"⟩, ⟨"accounts.view.lkml"⟩, ⟨"old.view.lkml"⟩] [] =
        ⟨shopDiscovery.files, [⟨"accounts.view.lkml"⟩], shopDiscovery.unmatched⟩ := by
    simp [Search.taking, Search.add, isAdmitted_shopFiles, hsame, shopDiscovery, -Path.same_iff]
  obtain ⟨⟨hshop, hfound, hmissing⟩, ⟨hbase, hfound', hmissing'⟩, haccounts, hnothing, hnone⟩ :=
    foundBy_shopFiles
  rw [hstart, Search.run_cons rfl hshop, hfound, hmissing, hafterShop,
    Search.run_cons rfl hbase, hfound', hmissing', hafterBase,
    Search.run_cons rfl haccounts, hnothing, hnone]
  rfl

theorem run_shopFiles :
    run shopFiles ⟨"shop.model.lkml"⟩ ["old*"] = .ok shopDiscovery := by
  have hparent : Path.parent ⟨"shop.model.lkml"⟩ = ⟨""⟩ := by decide
  have hexclusions : ∀ pattern ∈ ["old*"], ∃ matched, GlobLibrary.compile pattern = .ok matched :=
    List.forall_mem_singleton.2 ⟨_, compile_old⟩
  have hsearch := search_shopFiles
  rw [← hparent] at hsearch
  have hsorted : sortPaths shopDiscovery.files = shopDiscovery.files :=
    List.mergeSort_of_pairwise (by decide)
  rw [run_of_search (by decide) hexclusions hsearch rfl, hsorted, hparent]
  simp [shopDiscovery, sortUnmatched]

/-- The two model files include each other; an old file is left out, and one include is missing. -/
theorem run_isClosure_shopFiles :
    run shopFiles ⟨"shop.model.lkml"⟩ ["old*"] = .ok shopDiscovery ∧
      IsClosure shopFiles ⟨"shop.model.lkml"⟩ ["old*"] shopDiscovery :=
  ⟨run_shopFiles, (run_isClosure shopFiles ⟨"shop.model.lkml"⟩ ["old*"]).2 _ run_shopFiles⟩

end LookML.Discovery
