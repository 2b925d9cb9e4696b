import LookML.Library
import LookML.Proofs.Discovery
import LookML.Proofs.Glob.Plain
/-!
# All files of a directory

From a directory whose path names itself in a pattern, all files with a LookML ending are found at
any depth. The search only fails on an include that is no pattern.
-/

namespace LookML

open FileTree (Place IsName WellFormed)

namespace FileTree

/-- What stands at a path of names inside a tree. -/
def get? : FileTree → List String → Option FileTree
  | t, [] => some t
  | t, name :: names => (t.entries.lookup name).bind fun u => u.get? names

theorem IsName.component? {name : String} (h : IsName name) :
    Path.component? name = some (.name name) := by
  simp [Path.component?, h.1, h.2.1, h.2.2.1]

theorem mem_belowEntries {path : Path} {above : List FileTree} {name : String} {t : FileTree}
    {entries : List (String × FileTree)} (h : (name, t) ∈ entries) :
    ⟨Glob.within path name, name, ⟨t, above⟩⟩ ∈ Glob.belowEntries path above entries ∧
      Glob.below (Glob.within path name) above t ⊆ Glob.belowEntries path above entries := by
  induction entries with
  | nil => cases h
  | cons e entries ih =>
    obtain ⟨n, u⟩ := e
    rw [Glob.belowEntries]
    obtain heq | h := List.mem_cons.1 h
    · cases heq
      exact ⟨List.mem_cons_self, fun f hf => List.mem_cons_of_mem _ (List.mem_append_left _ hf)⟩
    · obtain ⟨hmem, hsub⟩ := ih h
      exact ⟨List.mem_cons_of_mem _ (List.mem_append_right _ hmem),
        fun f hf => List.mem_cons_of_mem _ (List.mem_append_right _ (hsub hf))⟩

theorem exists_mem_below {t u : FileTree} {names : List String} {name : String} {path : Path}
    (above : List FileTree) (hwell : t.WellFormed) (htext : path.text ≠ "")
    (h : t.get? names = some u) (hlast : names.getLast? = some name) :
    ∃ f ∈ Glob.below path above t, f.name = name ∧ f.place.here = u ∧
      f.path.bare = path.bare ++ names.map .name := by
  induction names generalizing t path above with
  | nil => cases hlast
  | cons n names ih =>
    obtain ⟨v, hv, hu⟩ := Option.bind_eq_some_iff.1 h
    have hmem := mem_of_lookup hv
    obtain ⟨hwell', hn, -⟩ := hwell.of_mem_entries hmem
    cases t with
    | file content => cases hv
    | directory entries =>
      have hbare : (Glob.within path n).bare = path.bare ++ [.name n] := by
        rw [Glob.bare_within htext hn.2.2.2, hn.component?]
        rfl
      have htext' := Glob.text_within_ne (d := path) htext fun _ => hn.1
      cases names with
      | nil =>
        cases hu
        cases hlast
        exact ⟨_, (mem_belowEntries hmem).1, rfl, rfl, hbare⟩
      | cons n' names =>
        obtain ⟨f, hf, hname, hhere, hpath⟩ :=
          ih (.directory entries :: above) hwell' htext' hu hlast
        refine ⟨f, (mem_belowEntries hmem).2 hf, hname, hhere, ?_⟩
        rw [hpath, hbare, List.append_assoc]
        rfl

end FileTree

namespace Discovery

variable {base directory : Place} {path root : Path}

/-! ## What a pattern names -/

theorem expand_eq_ok {pattern : Path} {found : List Path} :
    expand base pattern = .ok found ↔ ∃ all, Glob.steps pattern = .ok all ∧
      sortPaths (((Glob.reach all (Glob.startOf base pattern)).map Glob.Found.path).filter
        base.hasFile) = found := by
  have hpaths : GlobLibrary.paths base pattern =
      (Glob.paths base pattern).mapError Glob.Error.message := rfl
  rw [expand, map_eq_ok]
  unfold globFiles
  rw [hpaths]
  cases h : Glob.paths base pattern with
  | error e =>
    have hnone : ∀ all, Glob.steps pattern ≠ .ok all := fun all hall => by
      rw [Glob.paths_eq_ok.2 ⟨all, hall, rfl⟩] at h
      cases h
    simp [Except.mapError, hnone]
  | ok paths =>
    obtain ⟨all, hall, rfl⟩ := Glob.paths_eq_ok.1 h
    simp [Except.mapError, hall]

theorem exists_expand_of_steps (base : Place) {pattern : Path} {all : List Glob.Step}
    (h : Glob.steps pattern = .ok all) : ∃ found, expand base pattern = .ok found ∧
      ∀ g ∈ Glob.reach all (Glob.startOf base pattern), base.hasFile g.path → g.path ∈ found := by
  refine ⟨_, expand_eq_ok.2 ⟨all, h, rfl⟩, fun g hg hfile => ?_⟩
  exact List.mem_mergeSort.2 (List.mem_filter.2 ⟨List.mem_map_of_mem hg, hfile⟩)

/-! ## What the patterns of a directory name -/

theorem join_stars (hd : path.text ≠ "") (ending : String) :
    (path.join "**").join ("*" ++ ending) = path.join ("**/*" ++ ending) := by
  have htext : (path.join "**").text.toList = path.stem ++ ['/', '*', '*'] :=
    Path.toList_text_join hd "**"
  have hstem : (path.join "**").stem = path.stem ++ ['/', '*', '*'] := by
    simp [Path.stem, htext]
  apply Path.eq_of_toList_text
  rw [Path.toList_text_join (Path.text_join_ne hd _), hstem, Path.toList_text_join hd]
  simp

theorem steps_stars : ∀ ending ∈ endings, Glob.steps ⟨"**/*" ++ ending⟩ =
    .ok [.descend, .matching ⟨.sequence :: ending.toList.map Glob.tokenOf⟩] := by
  intro ending hending
  apply eq_ok_of_toOption
  revert ending
  decide +kernel

example : (Glob.steps ⟨"**/*.lkml"⟩).toOption = some [.descend, .matching
    ⟨[.sequence, .literal '.', .literal 'l', .literal 'k', .literal 'm', .literal 'l']⟩] := by
  decide +kernel

theorem exists_expand (hbase : base.WellFormed) (hhere : base.here.isDirectory)
    (hpath : Glob.NamesItself path) (hdirectory : base.follow? path = some directory)
    {ending : String} (hending : ending ∈ endings) :
    ∃ found, expand base ((path.join "**").join ("*" ++ ending)) = .ok found ∧
      ∀ names name content, directory.here.get? names = some (.file content) →
        names.getLast? = some name → ending.toList <:+ name.toList → ∃ p ∈ found,
          p.bare = path.bare ++ names.map .name ∧
            ∃ above, base.follow? p = some ⟨.file content, above⟩ := by
  have htext := (Place.follow?_eq_some_iff.1 hdirectory).1
  obtain ⟨g, rfl, hg, hbare, hreach⟩ := Glob.exists_mem_reach_leading hpath hdirectory
  have hinner : (Path.segments ⟨"**/*" ++ ending⟩).head? ≠ some "" ∧
      (Path.segments ⟨"**/*" ++ ending⟩).getLast? ≠ some "" := by
    revert ending
    decide
  have hsteps := Glob.steps_join htext hpath.plain hinner.1 hinner.2 (steps_stars ending hending)
  have hstart : Glob.startOf base (path.join ("**/*" ++ ending)) = Glob.startOf base path :=
    Glob.startOf_eq_of_isAbsolute (Path.isAbsolute_join htext _)
  rw [join_stars htext]
  obtain ⟨found, hfound, hmem⟩ := exists_expand_of_steps base hsteps
  refine ⟨found, hfound, fun names name content hget hlast hsuffix => ?_⟩
  obtain ⟨f, hf, rfl, hcontent, hnames⟩ :=
    FileTree.exists_mem_below g.place.above (hbase.follow? hdirectory).here hg hget hlast
  have hmatching : f ∈ Glob.reach
      [.descend, .matching ⟨.sequence :: ending.toList.map Glob.tokenOf⟩] g := by
    have hmatch := Glob.isMatch_sequence hsuffix
    exact List.mem_flatMap.2 ⟨f, List.mem_filter.2 ⟨hf, hmatch⟩, List.mem_singleton_self f⟩
  have hreaches := hreach _ hmatching
  rw [← hstart] at hreaches
  have hleads := Glob.leads_of_mem_reach base _ (fun _ => Glob.isSingle_of_mem_steps hsteps) _
    (Glob.leads_startOf hbase hhere _) f hreaches
  refine ⟨f.path, hmem f hreaches ?_, ?_, f.place.above, ?_⟩
  · rw [Place.hasFile, hleads.follow?]
    simp [hcontent, FileTree.isFile]
  · rw [hnames, hbare]
  · rw [hleads.follow?, ← hcontent]

/-! ## Includes that can be read -/

/-- The include is about another project, or a pattern that can be read, wherever it is seen
from. -/
def IsPattern (pattern : String) : Prop :=
  ∀ full, includePattern? ⟨""⟩ pattern = some full → ∃ all, Glob.steps full = .ok all

def completed (inner : String) : String :=
  if endings.any fun ending => ending.toList.isSuffixOf inner.toList then inner
  else inner ++ ".lkml"

theorem includePattern?_eq (root : Path) (pattern : String) : includePattern? root pattern =
    if ['/', '/'].isPrefixOf pattern.toList then none
    else some (root.join (completed (String.ofList (pattern.toList.dropWhile (· = '/'))))) := rfl

theorem exists_ending_completed (inner : String) :
    ∃ ending ∈ endings, ending.toList <:+ (completed inner).toList := by
  unfold completed
  split
  · rename_i hcomplete
    obtain ⟨ending, hending, hsuffix⟩ := List.any_eq_true.1 hcomplete
    exact ⟨ending, hending, List.isSuffixOf_iff_suffix.1 hsuffix⟩
  · exact ⟨".lkml", by decide, ⟨inner.toList, String.toList_append.symm⟩⟩

theorem getLast?_segments_completed (inner : String) :
    (Path.segments ⟨completed inner⟩).getLast? ≠ some "" := by
  have hshape : ∀ ending ∈ endings, ending.toList ≠ [] ∧ '/' ∉ ending.toList := by decide
  obtain ⟨ending, hending, hsuffix⟩ := exists_ending_completed inner
  exact Path.getLast?_segments_ne hsuffix (hshape ending hending).1 (hshape ending hending).2

theorem head?_segments_completed {inner : String} (h : inner.toList.head? ≠ some '/') :
    (Path.segments ⟨completed inner⟩).head? ≠ some "" := by
  have hhead : ∃ c cs, (completed inner).toList = c :: cs ∧ c ≠ '/' := by
    cases hinner : inner.toList with
    | nil =>
      rw [String.toList_eq_nil_iff.1 hinner]
      exact ⟨'.', "lkml".toList, by decide, by decide⟩
    | cons c cs =>
      rw [hinner] at h
      unfold completed
      have hc : c ≠ '/' := fun heq => h (congrArg some heq)
      split
      · exact ⟨c, cs, hinner, hc⟩
      · exact ⟨c, cs ++ ".lkml".toList, by simp [hinner], hc⟩
  obtain ⟨c, cs, hcs, hc⟩ := hhead
  exact Path.head?_segments_ne hcs hc

/-- What an include asks for is joined to the root. It begins and ends in a name. -/
theorem exists_inner {pattern : String} {full : Path}
    (h : includePattern? root pattern = some full) :
    ∃ inner : String, full = root.join inner ∧ includePattern? ⟨""⟩ pattern = some ⟨inner⟩ ∧
      (Path.segments ⟨inner⟩).head? ≠ some "" ∧ (Path.segments ⟨inner⟩).getLast? ≠ some "" := by
  rw [includePattern?_eq] at h ⊢
  split at h
  · cases h
  · rename_i hremote
    cases h
    have hhead := List.head?_dropWhile_not (· = '/') pattern.toList
    refine ⟨_, rfl, ?_, head?_segments_completed ?_, getLast?_segments_completed _⟩
    · rw [if_neg hremote, Path.join, if_pos (by decide)]
      simp
    · rw [String.toList_ofList]
      intro hslash
      rw [hslash] at hhead
      cases hhead

theorem expands_of_isPattern (htext : path.text ≠ "") (hplain : Glob.Plain path.text.toList)
    {pattern : String} (h : IsPattern pattern) : Expands base path pattern := by
  intro full hfull
  obtain ⟨inner, rfl, hinner, hfirst, hlast⟩ := exists_inner hfull
  obtain ⟨all, hall⟩ := h _ hinner
  obtain ⟨found, hfound, -⟩ :=
    exists_expand_of_steps base (Glob.steps_join htext hplain hfirst hlast hall)
  exact ⟨found, hfound⟩

/-! ## The whole run -/

section Library

variable [GlobLibrary]

theorem exists_search_run {admits : Path → Bool}
    (h : ∀ file, ∀ pattern ∈ includes base file, Expands base root pattern) (n : Nat)
    (s : Search) : ∃ t, Search.run base root admits n s = .ok t := by
  induction n generalizing s with
  | zero => exact ⟨s, rfl⟩
  | succ n ih =>
    cases hqueue : s.queue with
    | nil => exact ⟨s, Search.run_of_queue_eq_nil _ hqueue⟩
    | cons file queue =>
      rw [Search.run_cons hqueue (h file)]
      exact ih _

def searched (d : Discovery) : Search :=
  ⟨d.files, [], d.unmatched⟩

theorem complete_of_run {exclusions : List String} {d : Discovery}
    (h : run base path exclusions = .ok d) :
    Complete base (projectDirectory base path)
      (isAdmitted (projectDirectory base path) exclusions) (Initial base path) d.searched := by
  obtain ⟨first, s, hfirst, hrun, rfl⟩ := exists_search h
  obtain ⟨hsteps, hend⟩ := Search.steps_of_run hrun
  obtain ⟨done, hdone⟩ := progress_of_steps hfirst hsteps
  have hcomplete := hdone.finish (hend (Search.remaining_start_le _ _ _ _)) fun _ =>
    Discovered.hasFile fun _ => hasFile_of_initial
  exact hcomplete.of_perm (List.mergeSort_perm _ _) (List.mergeSort_perm _ _)

theorem hasFile_of_run {exclusions : List String} {d : Discovery}
    (h : run base path exclusions = .ok d) : ∀ file ∈ d.files, base.hasFile file :=
  fun file hfile => Discovered.hasFile (fun _ => hasFile_of_initial) ((complete_of_run h).sound file hfile)

theorem exists_run (hdirectory : base.hasDirectory path)
    (hfirst : ∀ ending ∈ endings, ∃ found,
      expand base ((path.join "**").join ("*" ++ ending)) = .ok found)
    (hincludes : ∀ file, ∀ pattern ∈ includes base file, Expands base path pattern) :
    ∃ d, run base path [] = .ok d := by
  obtain ⟨found, hfound⟩ := exists_mapM_eq_ok hfirst
  have hlookml : lookmlFiles base path = .ok _ := bind_eq_ok.2 ⟨found, hfound, rfl⟩
  unfold run
  rw [if_pos hdirectory]
  simp only [hlookml, List.mapM_nil, bind, Except.bind, pure, Except.pure]
  split
  · rename_i e hsearch
    obtain ⟨t, ht⟩ := exists_search_run hincludes _ _
    rw [ht] at hsearch
    cases hsearch
  · exact ⟨_, rfl⟩

end Library

/-- From a directory whose path names itself, every file below it that has a LookML ending is among
the files of the project, if each include is a pattern. -/
theorem run_covers_directory (hbase : base.WellFormed) (hhere : base.here.isDirectory)
    (hpath : Glob.NamesItself path) (hdirectory : base.follow? path = some directory)
    (hisDirectory : directory.here.isDirectory)
    (hincludes : ∀ file, ∀ pattern ∈ includes base file, IsPattern pattern) :
    ∃ d, run base path [] = .ok d ∧
      ∀ names name content, directory.here.get? names = some (.file content) →
        names.getLast? = some name → (∃ ending ∈ endings, ending.toList <:+ name.toList) →
          ∃ p ∈ d.files, p.bare = path.bare ++ names.map .name ∧
            ∃ above, base.follow? p = some ⟨.file content, above⟩ := by
  have hhas : base.hasDirectory path := by
    rw [Place.hasDirectory, hdirectory]
    exact hisDirectory
  have hexpands : ∀ file, ∀ pattern ∈ includes base file, Expands base path pattern :=
    fun file pattern hpattern => expands_of_isPattern (Place.follow?_eq_some_iff.1 hdirectory).1
      hpath.plain (hincludes file pattern hpattern)
  obtain ⟨d, hd⟩ := exists_run hhas (fun ending hending =>
    (exists_expand hbase hhere hpath hdirectory hending).imp fun _ h => h.1) hexpands
  refine ⟨d, hd, fun names name content hget hlast ⟨ending, hending, hsuffix⟩ => ?_⟩
  obtain ⟨found, hfound, hcovers⟩ := exists_expand hbase hhere hpath hdirectory hending
  obtain ⟨p, hp, hbare, above, hfollow⟩ := hcovers names name content hget hlast hsuffix
  have hdiscovered : Discovered base (projectDirectory base path)
      (isAdmitted (projectDirectory base path) []) (Initial base path) p :=
    .initial (.inl ⟨hhas, ending, hending, found, hfound, hp⟩) rfl
  obtain ⟨p', hp', hcomponents⟩ :=
    List.mem_map.1 ((complete_of_run hd).complete p hdiscovered)
  have hfile := hasFile_of_run hd p' hp'
  obtain ⟨place, hplace, -⟩ := (Option.any_eq_true _ _).1 hfile
  refine ⟨p', hp', ?_, above, ?_⟩
  · rw [Path.bare, hcomponents, ← Path.bare, hbare]
  · rw [hplace, Place.follow?_eq_of_same hcomponents hplace hfollow]

def shopViews : FileTree :=
  .directory [("orders.view.lookml", .file "".toUTF8)]

def shop : FileTree :=
  .directory [("shop.model.lkml", .file "include: \"*/*.view\"".toUTF8), ("views", shopViews)]

def aboveShop : Place where
  here := .directory [("shop", shop)]
  above := []

theorem wellFormed_aboveShop : aboveShop.WellFormed where
  here := by
    have hviews : shopViews.WellFormed :=
      .directory (by decide) (by decide) (by simp [WellFormed.file])
    have hshop : shop.WellFormed :=
      .directory (by decide) (by decide) (by simp [WellFormed.file, hviews])
    exact .directory (by decide) (by decide) (by simpa using hshop)
  above := List.forall_mem_nil _

theorem isPattern_aboveShop (file : Path) :
    ∀ pattern ∈ includes aboveShop file, IsPattern pattern := by
  intro pattern hpattern
  have htexts : modelTexts aboveShop =
      [("shop.model.lkml", "include: \"*/*.view\"")] := by
    decide
  obtain ⟨entry, hentry, hin⟩ := exists_mem_includesIn hpattern
  rw [htexts, List.mem_singleton] at hentry
  subst hentry
  have hscan : (Token.scan "shop.model.lkml" "include: \"*/*.view\"").toOption =
      some (Grammar.itemTokens [includeLine 1 "*/*.view"] ++
        [⟨.endOfInput, ⟨1, 20⟩, ⟨1, 20⟩⟩]) := by
    decide +kernel
  have hparse := Document.parse_of_scan (eq_ok_of_toOption hscan) rfl (by decide)
  obtain rfl : pattern = "*/*.view" := by
    rw [includesIn, hparse] at hin
    simpa [Grammar.includes_document, includeLine, Grammar.Item.includes, Grammar.Scalar.value,
      Value.texts] using hin
  intro full hfull
  obtain rfl : Path.mk "*/*.view.lkml" = full := by
    have hnamed : includePattern? ⟨""⟩ "*/*.view" = some ⟨"*/*.view.lkml"⟩ := by decide
    exact Option.some.inj (hnamed.symm.trans hfull)
  have hsteps : (Glob.steps ⟨"*/*.view.lkml"⟩).toOption.isSome := by decide +kernel
  obtain ⟨all, hall⟩ := Option.isSome_iff_exists.1 hsteps
  exact ⟨all, eq_ok_of_toOption hall⟩

theorem run_covers_directory_aboveShop :
    aboveShop.WellFormed ∧ aboveShop.here.isDirectory ∧ Glob.NamesItself ⟨"./shop"⟩ ∧
      aboveShop.follow? ⟨"./shop"⟩ = some ⟨shop, [aboveShop.here]⟩ ∧ shop.isDirectory ∧
      (∀ file, ∀ pattern ∈ includes aboveShop file, IsPattern pattern) ∧
      ∃ d, run aboveShop ⟨"./shop"⟩ [] = .ok d ∧
        ∀ names name content, shop.get? names = some (.file content) →
          names.getLast? = some name → (∃ ending ∈ endings, ending.toList <:+ name.toList) →
            ∃ p ∈ d.files, p.bare = Path.bare ⟨"./shop"⟩ ++ names.map .name ∧
              ∃ above, aboveShop.follow? p = some ⟨.file content, above⟩ := by
  have hnames : Glob.NamesItself ⟨"./shop"⟩ := ⟨⟨by decide, by decide⟩, by decide⟩
  have hfollow : aboveShop.follow? ⟨"./shop"⟩ = some ⟨shop, [aboveShop.here]⟩ := rfl
  exact ⟨wellFormed_aboveShop, rfl, hnames, hfollow, rfl, isPattern_aboveShop,
    run_covers_directory wellFormed_aboveShop rfl hnames hfollow rfl isPattern_aboveShop⟩

/-! ## A directory that its path does not name -/

def bracketed : Place where
  here := .directory [("a[b]", .directory [("x.view.lkml", .file "view: x \x7b\x7d".toUTF8)])]
  above := []

/-- In a pattern the brackets are a set, and so nothing is found. -/
theorem run_bracketed :
    bracketed.WellFormed ∧ bracketed.here.isDirectory ∧
      (∃ directory, bracketed.follow? ⟨"a[b]"⟩ = some directory ∧ directory.here.isDirectory ∧
        directory.here.get? ["x.view.lkml"] = some (.file "view: x \x7b\x7d".toUTF8)) ∧
      (∀ file, includes bracketed file = []) ∧
      run bracketed ⟨"a[b]"⟩ [] = .ok ⟨⟨"a[b]"⟩, [], []⟩ := by
  have hincludes (file : Path) : includes bracketed file = [] := by
    have htexts : modelTexts bracketed = [] := by decide
    refine List.eq_nil_iff_forall_not_mem.2 fun pattern hpattern => ?_
    obtain ⟨entry, hentry, -⟩ := exists_mem_includesIn hpattern
    rw [htexts] at hentry
    cases hentry
  have hlkml : expand bracketed ((Path.join ⟨"a[b]"⟩ "**").join "*.lkml") = .ok [] :=
    expand_of_toOption (by decide +kernel) .nil
  have hlookml : expand bracketed ((Path.join ⟨"a[b]"⟩ "**").join "*.lookml") = .ok [] :=
    expand_of_toOption (by decide +kernel) .nil
  have hfiles : lookmlFiles bracketed ⟨"a[b]"⟩ = .ok [] := by
    simp [lookmlFiles, endings, hlkml, hlookml, bind, Except.bind, pure, Except.pure, sortPaths]
  have hwell : bracketed.WellFormed := by
    have hinside : WellFormed (.directory [("x.view.lkml", .file "view: x \x7b\x7d".toUTF8)]) :=
      .directory (by decide) (by decide) (by simp [WellFormed.file])
    exact ⟨.directory (by decide) (by decide) (by simpa using hinside), List.forall_mem_nil _⟩
  refine ⟨hwell, rfl, ⟨_, rfl, rfl, rfl⟩, hincludes, ?_⟩
  have hdirectory : bracketed.hasDirectory ⟨"a[b]"⟩ = true := rfl
  simp [run, hdirectory, hfiles, bind, Except.bind, pure, Except.pure, sortPaths,
    Search.run_of_queue_eq_nil]

end Discovery

end LookML
