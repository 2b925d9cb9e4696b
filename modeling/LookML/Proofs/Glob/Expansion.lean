import LookML.Library.Glob.Expansion
import LookML.Proofs.Except
import LookML.Proofs.FileTree
/-!
# Where the paths of an expansion lead

The path that a place was reached by leads to that place.
-/

namespace LookML.Glob

open FileTree (Place)

/-! ## Patterns without wildcards -/

theorem mapM_literal?_cons {t : GlobToken} {tokens : List GlobToken} {cs : List Char} :
    (t :: tokens).mapM GlobToken.literal? = some cs ↔
      ∃ c rest, t = .literal c ∧ tokens.mapM GlobToken.literal? = some rest ∧ cs = c :: rest := by
  simp only [List.mapM_cons, Option.bind_eq_bind, Option.bind_eq_some_iff]
  cases t <;> simp [GlobToken.literal?, eq_comm]

theorem ne_literal_of_set? {cs rest : List Char} {t : GlobToken} (h : set? cs = some (t, rest))
    (c : Char) : t ≠ .literal c := by
  unfold set? at h
  split at h <;> obtain ⟨_, _, e⟩ := Option.map_eq_some_iff.1 h <;> cases e <;> nofun

theorem eq_of_literals_readTokens {previous : Option Char} {position : Nat} {cs ds : List Char}
    {tokens : List GlobToken} (h : readTokens previous position cs = .ok tokens)
    (hds : tokens.mapM GlobToken.literal? = some ds) : ds = cs := by
  fun_induction readTokens previous position cs generalizing tokens ds with
  | case1 =>
    cases h
    simpa using hds.symm
  | case2 | case3 | case6 | case9 => cases h
  | case4 =>
    cases h
    simp [GlobToken.literal?] at hds
  | case5 | case7 | case8 =>
    obtain ⟨tokens, -, rfl⟩ := map_eq_ok.1 h
    obtain ⟨c, rest, hc, -⟩ := mapM_literal?_cons.1 hds
    cases hc
  | case10 _ _ _ _ _ hset =>
    obtain ⟨tokens, -, rfl⟩ := map_eq_ok.1 h
    obtain ⟨c, rest, hc, -⟩ := mapM_literal?_cons.1 hds
    exact absurd hc (ne_literal_of_set? hset c)
  | case11 _ _ _ _ _ _ _ _ _ ih =>
    obtain ⟨tokens, htokens, rfl⟩ := map_eq_ok.1 h
    obtain ⟨c, rest, hc, hrest, rfl⟩ := mapM_literal?_cons.1 hds
    cases hc
    rw [ih htokens hrest]

theorem eq_of_literal? {text s : String} {g : Glob} (h : parse text = .ok g)
    (hs : g.literal? = some s) : s = text := by
  obtain ⟨tokens, htokens, rfl⟩ := map_eq_ok.1 h
  obtain ⟨cs, hcs, rfl⟩ := Option.map_eq_some_iff.1 hs
  rw [eq_of_literals_readTokens htokens hcs, String.ofList_toList]

def Step.IsSingle : Step → Prop
  | name s => '/' ∉ s.toList
  | matching _ | descend => True

theorem isSingle_ofGlob {part : String} {g : Glob} (hpart : '/' ∉ part.toList)
    (h : parse part = .ok g) : (Step.ofGlob g).IsSingle := by
  unfold Step.ofGlob
  split
  · rename_i s hs
    rw [eq_of_literal? h hs]
    exact hpart
  · split <;> trivial

/-- What stands between the slashes of a pattern, without those at the start of an absolute one and
one at the end. -/
def stepParts (pattern : Path) : List String :=
  let parts := if pattern.isAbsolute then pattern.segments.dropWhile (· = "") else pattern.segments
  if parts.getLast? = some "" then parts.dropLast else parts

theorem steps_eq_ok {pattern : Path} {all : List Step} : steps pattern = .ok all ↔
    (∃ g, parse pattern.text = .ok g) ∧
      (stepParts pattern).map (fun part => Step.ofGlob <$> parse part) = all.map .ok := by
  rw [← mapM_eq_ok, ← exists_and_right]
  exact bind_eq_ok

theorem mem_segments_of_mem_stepParts {pattern : Path} {part : String}
    (h : part ∈ stepParts pattern) : part ∈ pattern.segments := by
  simp only [stepParts] at h
  split at h <;> split at h
  · exact (List.dropWhile_sublist _).subset (List.dropLast_subset _ h)
  · exact (List.dropWhile_sublist _).subset h
  · exact List.dropLast_subset _ h
  · exact h

theorem exists_of_mem_steps {pattern : Path} {all : List Step} (h : steps pattern = .ok all)
    {step : Step} (hstep : step ∈ all) :
    ∃ part ∈ pattern.segments, ∃ g, parse part = .ok g ∧ Step.ofGlob g = step := by
  have hmem := List.mem_map_of_mem (f := Except.ok (ε := Error)) hstep
  rw [← (steps_eq_ok.1 h).2] at hmem
  obtain ⟨part, hpart, hok⟩ := List.mem_map.1 hmem
  exact ⟨part, mem_segments_of_mem_stepParts hpart, map_eq_ok.1 hok⟩

theorem isSingle_of_mem_steps {pattern : Path} {all : List Step} (h : steps pattern = .ok all)
    {step : Step} (hstep : step ∈ all) : step.IsSingle := by
  obtain ⟨part, hpart, g, hg, rfl⟩ := exists_of_mem_steps h hstep
  exact isSingle_ofGlob (Path.notMem_of_mem_segments hpart) hg

/-! ## What holds of all that is reached -/

def Found.inside (f : Found) (e : String × FileTree) : Found :=
  ⟨within f.path e.1, e.1, ⟨e.2, f.place.here :: f.place.above⟩⟩

section Invariants

variable {P : Found → Prop}

def Inherited (P : Found → Prop) : Prop :=
  ∀ f, P f → ∀ e ∈ f.place.here.entries, P (f.inside e)

mutual

theorem forall_mem_below (hinside : Inherited P) (path : Path) (name : String)
    (above : List FileTree) :
    (t : FileTree) → P ⟨path, name, ⟨t, above⟩⟩ → ∀ g ∈ below path above t, P g
  | .file _, _ => by simp [below]
  | .directory entries, h =>
    forall_mem_belowEntries hinside path name above entries entries h (List.Subset.refl _)

theorem forall_mem_belowEntries (hinside : Inherited P) (path : Path) (name : String)
    (above : List FileTree) (all : List (String × FileTree)) : (entries : List (String × FileTree)) →
    P ⟨path, name, ⟨.directory all, above⟩⟩ → entries ⊆ all →
      ∀ g ∈ belowEntries path (.directory all :: above) entries, P g
  | [], _, _ => by simp [belowEntries]
  | (n, t) :: entries, h, hall => by
    have hhead := hinside _ h (n, t) (hall List.mem_cons_self)
    rintro g (_ | ⟨_, hg⟩)
    · exact hhead
    · obtain hg | hg := List.mem_append.1 hg
      · exact forall_mem_below hinside _ n _ t hhead g hg
      · exact forall_mem_belowEntries hinside path name above all entries h
          (List.Subset.trans (List.subset_cons_self _ _) hall) g hg

end

/-- What entries inherit holds of all that some steps lead to, if those steps keep it that do not
lead to entries. -/
theorem forall_mem_reach {Q : Step → Prop} (hinside : Inherited P)
    (hname : ∀ s f g, Q (.name s) → P f → f.entry? s = some g → P g)
    (hdots : ∀ m f n q, Q (.matching m) → P f → m.tokens.head? = some (.literal '.') →
      n ∈ [".", ".."] → m.isMatch n → f.place.step n = some q → P ⟨f.path.join n, n, q⟩) :
    (all : List Step) → (∀ step ∈ all, Q step) → (f : Found) → P f → ∀ g ∈ reach all f, P g
  | [], _, f, hf => by simpa [reach] using hf
  | .name s :: all, hall, f, hf => by
    obtain ⟨hs, hall⟩ := List.forall_mem_cons.1 hall
    intro g hg
    obtain ⟨e, he, hg⟩ := List.mem_flatMap.1 hg
    have hentry := hname s f e hs hf (Option.mem_toList.1 he)
    exact forall_mem_reach hinside hname hdots all hall e hentry g hg
  | .matching m :: all, hall, f, hf => by
    obtain ⟨hm, hall⟩ := List.forall_mem_cons.1 hall
    intro g hg
    obtain ⟨e, he, hg⟩ := List.mem_flatMap.1 hg
    refine forall_mem_reach hinside hname hdots all hall e ?_ g hg
    obtain he | he := List.mem_append.1 he
    · obtain ⟨entry, hentry, rfl⟩ := List.mem_map.1 he
      exact hinside f hf entry (List.mem_filter.1 hentry).1
    · obtain ⟨n, hn, he⟩ := List.mem_filterMap.1 he
      obtain ⟨q, hq, rfl⟩ := Option.map_eq_some_iff.1 he
      split at hn
      · rename_i hdot
        obtain ⟨hn, hmatch⟩ := List.mem_filter.1 hn
        exact hdots m f n q hm hf hdot hn hmatch hq
      · cases hn
  | [.descend], _, f, hf => fun g hg =>
    forall_mem_below hinside f.path f.name f.place.above f.place.here hf g (List.mem_filter.1 hg).1
  | .descend :: .descend :: all, hall, f, hf =>
    forall_mem_reach hinside hname hdots (.descend :: all) (List.forall_mem_cons.1 hall).2 f hf
  | .descend :: .name s :: all, hall, f, hf | .descend :: .matching s :: all, hall, f, hf => by
    intro g hg
    obtain ⟨e, he, hg⟩ := List.mem_flatMap.1 hg
    have hrest := (List.forall_mem_cons.1 (List.forall_mem_cons.1 hall).2).2
    have hbelow := forall_mem_below hinside f.path f.name f.place.above f.place.here hf e
      (List.mem_filter.1 he).1
    exact forall_mem_reach hinside hname hdots all hrest e hbelow g hg

end Invariants

/-! ## Places -/

variable {base p q : Place} {d : Path} {name : String} {f : Found}

theorem follow?_within (hd : base.follow? d = some p) (hname : '/' ∉ name.toList)
    (hne : (within d name).text ≠ "") (hq : p.step name = some q) :
    base.follow? (within d name) = some q := by
  unfold within at hne ⊢
  split
  · rename_i hcurrent
    rw [if_pos hcurrent] at hne
    rwa [Place.follow?_mk hname hne, ← Place.follow?_of_components_eq_current hcurrent hd]
  · exact Place.follow?_join hd hname hq

structure Found.Leads (base : Place) (f : Found) : Prop where
  follow? : base.follow? f.path = some f.place
  wellFormed : f.place.WellFormed

theorem Found.Leads.text_ne (hf : f.Leads base) : f.path.text ≠ "" :=
  (Place.follow?_eq_some_iff.1 hf.follow?).1

theorem Found.Leads.inside (hf : f.Leads base) {e : String × FileTree}
    (he : e ∈ f.place.here.entries) : (f.inside e).Leads base := by
  obtain ⟨-, hname, hlookup⟩ := hf.wellFormed.here.of_mem_entries he
  have hstep := Place.step_of_isName hname hlookup
  refine ⟨follow?_within hf.follow? hname.2.2.2 ?_ hstep, hf.wellFormed.step hstep⟩
  unfold within
  split
  · exact hname.1
  · exact Path.text_join_ne hf.text_ne _

theorem Found.Leads.entry? (hf : f.Leads base) (hname : '/' ∉ name.toList) {g : Found}
    (hg : f.entry? name = some g) : g.Leads base := by
  simp only [Found.entry?] at hg
  split at hg
  · cases hg
  · rename_i hne
    obtain ⟨place, hplace, rfl⟩ := Option.map_eq_some_iff.1 hg
    exact ⟨follow?_within hf.follow? hname hne hplace, hf.wellFormed.step hplace⟩

theorem notMem_of_mem_dots {n : String} (hn : n ∈ [".", ".."]) : '/' ∉ n.toList := by
  rcases List.mem_pair.1 hn with rfl | rfl <;> decide

theorem Found.Leads.dots (hf : f.Leads base) {n : String} (hn : n ∈ [".", ".."])
    (hq : f.place.step n = some q) : Found.Leads base ⟨f.path.join n, n, q⟩ :=
  ⟨Place.follow?_join hf.follow? (notMem_of_mem_dots hn) hq, hf.wellFormed.step hq⟩

theorem leads_of_mem_reach (base : Place) (all : List Step) (hall : ∀ step ∈ all, step.IsSingle)
    (f : Found) (hf : f.Leads base) : ∀ g ∈ reach all f, g.Leads base :=
  forall_mem_reach (fun _ hf _ he => hf.inside he) (fun _ _ _ hs hf hg => hf.entry? hs hg)
    (fun _ _ _ _ _ hf _ hn _ hq => hf.dots hn hq) all hall f hf

def startOf (base : Place) (pattern : Path) : Found :=
  if pattern.isAbsolute then ⟨⟨"/"⟩, "", base.top⟩ else ⟨⟨"."⟩, "", base⟩

theorem startOf_eq_of_isAbsolute {pattern pattern' : Path}
    (h : pattern.isAbsolute = pattern'.isAbsolute) :
    startOf base pattern = startOf base pattern' := by
  rw [startOf, h, startOf]

theorem leads_startOf (hbase : base.WellFormed) (hhere : base.here.isDirectory) (pattern : Path) :
    (startOf base pattern).Leads base := by
  unfold startOf
  split
  · refine ⟨?_, hbase.top⟩
    have hstep : base.top.step "" = some base.top :=
      Place.step_of_component?_eq_none rfl (hbase.isDirectory_top hhere)
    have hsegments : Path.segments ⟨"/"⟩ = ["", ""] := by decide
    have hstart : base.start ⟨"/"⟩ = base.top := if_pos (by decide)
    refine Place.follow?_eq_some_iff.2 ⟨(by decide : "/" ≠ ""), ?_⟩
    simp [hsegments, hstart, hstep]
  · refine ⟨?_, hbase⟩
    change base.follow? ⟨"."⟩ = some base
    rw [Place.follow?_mk (by decide) (by decide)]
    exact Place.step_of_component?_eq_none rfl hhere

theorem paths_eq_ok {pattern : Path} {found : List Path} :
    paths base pattern = .ok found ↔ ∃ all, steps pattern = .ok all ∧
      (reach all (startOf base pattern)).map Found.path = found := by
  rw [paths, bind_eq_ok]
  simp only [pure, Except.pure, Except.ok.injEq]
  rfl

end LookML.Glob
