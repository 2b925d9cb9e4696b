import LookML.Proofs.Glob.Paths
/-!
# Paths as the beginning of patterns

The path of a directory is put before a pattern as it is written. Without brackets, and without two
stars in a row, it is read character by character. Then it names that directory, whatever else its
stars and question marks name.
-/

namespace LookML.Glob

open FileTree (Place)

/-! ## Reading character by character -/

def tokenOf : Char → GlobToken
  | '?' => .any
  | '*' => .sequence
  | c => .literal c

/-- There is no bracket that opens a set, and no star stands next to another. -/
structure Plain (cs : List Char) : Prop where
  brackets : '[' ∉ cs
  stars : ¬ ['*', '*'] <:+: cs

variable {cs rest : List Char} {tokens : List GlobToken} {previous previous' : Option Char}
  {position position' : Nat} {c : Char}

theorem Plain.of_infix {ds : List Char} (h : Plain cs) (hds : ds <:+: cs) : Plain ds where
  brackets hmem := h.brackets (hds.subset hmem)
  stars hstars := h.stars (hstars.trans hds)

theorem readTokens_cons (hc : c ≠ '[') (hstars : c = '*' → rest.head? ≠ some '*') :
    readTokens previous position (c :: rest) =
      (tokenOf c :: ·) <$> readTokens (some c) (position + 1) rest := by
  have hnext : c = '*' → ∀ ds, rest ≠ '*' :: ds := by
    rintro hc ds rfl
    exact hstars hc rfl
  by_cases hstar : c = '*'
  · subst hstar
    rw [readTokens.eq_6 _ _ _ (fun ds => hnext rfl _) fun ds => hnext rfl ds]
    rfl
  · by_cases hany : c = '?'
    · subst hany
      rw [readTokens.eq_7]
      rfl
    · have htoken : tokenOf c = .literal c := by
        unfold tokenOf
        split
        · exact absurd rfl hany
        · exact absurd rfl hstar
        · rfl
      rw [readTokens.eq_9 _ _ _ _ (fun _ h => absurd h hstar) (fun _ h => absurd h hstar) hstar
        hany hc, htoken]

theorem readTokens_append (hcs : Plain cs) (hrest : rest.head? ≠ some '*')
    (h : ∀ previous position, readTokens previous position rest = .ok tokens) :
    readTokens previous position (cs ++ rest) = .ok (cs.map tokenOf ++ tokens) := by
  induction cs generalizing previous position with
  | nil => exact h previous position
  | cons c cs ih =>
    have hc : c ≠ '[' := fun heq => hcs.brackets (heq ▸ List.mem_cons_self)
    have hstars : c = '*' → (cs ++ rest).head? ≠ some '*' := by
      rintro rfl hhead
      cases cs with
      | nil => exact hrest hhead
      | cons d cs =>
        cases hhead
        exact hcs.stars ⟨[], cs, rfl⟩
    have hrest' : Plain cs := hcs.of_infix (List.suffix_cons c cs).isInfix
    rw [List.cons_append, readTokens_cons hc hstars, ih hrest']
    rfl

theorem readTokens_plain (hcs : Plain cs) :
    readTokens previous position cs = .ok (cs.map tokenOf) := by
  have hnil : ([] : List Char).head? ≠ some '*' := nofun
  simpa using readTokens_append hcs hnil fun _ _ => readTokens.eq_1 _ _

/-- Where a pattern stands makes no difference if it comes first or after a slash. -/
theorem readTokens_of_previous (hprevious : previous.any (· ≠ '/') = previous'.any (· ≠ '/'))
    (h : readTokens previous position cs = .ok tokens) :
    readTokens previous' position' cs = .ok tokens := by
  fun_induction readTokens previous position cs generalizing previous' position' tokens with
  | case1 => rwa [readTokens.eq_1]
  | case2 | case3 | case6 | case9 => cases h
  | case4 _ _ hslash =>
    rwa [readTokens.eq_3, if_neg (hprevious ▸ hslash)]
  | case5 _ _ hslash _ _ ih =>
    obtain ⟨ts, hts, rfl⟩ := map_eq_ok.1 h
    rw [readTokens.eq_4, if_neg (hprevious ▸ hslash), ih rfl hts]
    rfl
  | case7 _ _ _ hthree htwo ih =>
    obtain ⟨ts, hts, rfl⟩ := map_eq_ok.1 h
    rw [readTokens.eq_6 _ _ _ hthree htwo, ih rfl hts]
    rfl
  | case8 _ _ _ ih =>
    obtain ⟨ts, hts, rfl⟩ := map_eq_ok.1 h
    rw [readTokens.eq_7, ih rfl hts]
    rfl
  | case10 _ _ _ t rest hset _ ih =>
    obtain ⟨ts, hts, rfl⟩ := map_eq_ok.1 h
    rw [readTokens.eq_8]
    split
    · simp_all
    · rename_i hset'
      cases hset.symm.trans hset'
      rw [ih rfl hts]
      rfl
  | case11 _ _ _ _ hthree htwo hone hany hbracket ih =>
    obtain ⟨ts, hts, rfl⟩ := map_eq_ok.1 h
    rw [readTokens.eq_9 _ _ _ _ hthree htwo hone hany hbracket, ih rfl hts]
    rfl

theorem parse_plain {part : String} (h : Plain part.toList) :
    parse part = .ok ⟨part.toList.map tokenOf⟩ := by
  rw [parse, readTokens_plain h]
  rfl

/-! ## Matching itself -/

theorem mem_rests_tokenOf {left : List (List Char)} (h : c :: cs ∈ left) :
    cs ∈ (left.flatMap (tokenOf c).rests).eraseDups := by
  refine List.mem_eraseDups.2 (List.mem_flatMap.2 ⟨_, h, ?_⟩)
  unfold tokenOf
  split
  · exact List.mem_singleton_self cs
  · cases cs <;> simp [GlobToken.rests, suffixes]
  · simp [GlobToken.rests]

theorem nil_mem_foldl_rests {left : List (List Char)} (h : cs ∈ left) :
    [] ∈ (cs.map tokenOf).foldl (fun left t => (left.flatMap t.rests).eraseDups) left := by
  induction cs generalizing left with
  | nil => exact h
  | cons c cs ih => exact ih (mem_rests_tokenOf h)

theorem isMatch_tokenOf (text : String) : Glob.isMatch ⟨text.toList.map tokenOf⟩ text := by
  rw [isMatch, List.contains_iff_mem]
  exact nil_mem_foldl_rests (List.mem_singleton_self _)

theorem mem_suffixes (front : List Char) : cs ∈ suffixes (front ++ cs) := by
  induction front with
  | nil => cases cs <;> simp [suffixes]
  | cons c front ih => exact List.mem_cons_of_mem _ ih

theorem isMatch_sequence {ending name : String} (h : ending.toList <:+ name.toList) :
    Glob.isMatch ⟨.sequence :: ending.toList.map tokenOf⟩ name := by
  obtain ⟨front, hfront⟩ := h
  rw [isMatch, List.contains_iff_mem]
  refine nil_mem_foldl_rests (List.mem_eraseDups.2 ?_)
  simp [GlobToken.rests, ← hfront, mem_suffixes]

/-! ## Steps -/

def stepOf (part : String) : Step :=
  .ofGlob ⟨part.toList.map tokenOf⟩

theorem tokenOf_ne_directories (c : Char) : tokenOf c ≠ .directories := by
  unfold tokenOf
  split <;> nofun

theorem stepOf_eq {part : String} (h : Plain part.toList) :
    stepOf part = .name part ∨ stepOf part = .matching ⟨part.toList.map tokenOf⟩ := by
  unfold stepOf Step.ofGlob
  split
  · rename_i s hs
    exact .inl (congrArg _ (eq_of_literal? (parse_plain h) hs))
  · refine .inr (if_neg fun htokens => ?_)
    obtain ⟨c, _, hc⟩ := List.mem_map.1 (htokens ▸ List.mem_singleton_self GlobToken.directories)
    exact tokenOf_ne_directories c hc

def leading (d : Path) : List String :=
  if d.isAbsolute then d.parts.dropWhile (· = "") else d.parts

theorem mem_parts_of_mem_leading {d : Path} {part : String} (h : part ∈ leading d) :
    part ∈ d.parts := by
  unfold leading at h
  split at h
  · exact (List.dropWhile_sublist _).subset h
  · exact h

theorem plain_of_mem_parts {d : Path} {part : String} (hd : Plain d.text.toList)
    (h : part ∈ d.parts) : Plain part.toList :=
  hd.of_infix (Path.infix_of_mem_parts h)

theorem parse_join {d : Path} {inner : String} {g : Glob} (hd : d.text ≠ "")
    (hplain : Plain d.text.toList) (h : parse inner = .ok g) :
    ∃ g', parse (d.join inner).text = .ok g' := by
  obtain ⟨tokens, htokens, -⟩ := map_eq_ok.1 h
  have hstem : Plain d.stem := hplain.of_infix d.stem_prefix.isInfix
  have hslash (previous position) : readTokens previous position ('/' :: inner.toList) =
      .ok (tokenOf '/' :: tokens) := by
    rw [readTokens_cons (by decide) (by simp), readTokens_of_previous (by decide) htokens]
    rfl
  refine ⟨⟨d.stem.map tokenOf ++ tokenOf '/' :: tokens⟩, map_eq_ok.2 ⟨_, ?_, rfl⟩⟩
  rw [Path.toList_text_join hd]
  exact readTokens_append hstem (by simp) hslash

theorem stepParts_of_segments {inner : String} (hfirst : (Path.segments ⟨inner⟩).head? ≠ some "")
    (hlast : (Path.segments ⟨inner⟩).getLast? ≠ some "") :
    stepParts ⟨inner⟩ = Path.segments ⟨inner⟩ := by
  simp [stepParts, Path.isAbsolute_of_head? hfirst, hlast]

theorem stepParts_join {d : Path} {inner : String} (hd : d.text ≠ "")
    (hfirst : (Path.segments ⟨inner⟩).head? ≠ some "")
    (hlast : (Path.segments ⟨inner⟩).getLast? ≠ some "") :
    stepParts (d.join inner) = leading d ++ Path.segments ⟨inner⟩ := by
  have hkept : (Path.segments ⟨inner⟩).dropWhile (· = "") = Path.segments ⟨inner⟩ := by
    obtain ⟨s, rest, hs⟩ := List.exists_cons_of_ne_nil (Path.segments_ne_nil ⟨inner⟩)
    rw [hs] at hfirst ⊢
    exact List.dropWhile_cons_of_neg (by simpa using hfirst)
  have hparts : (if (d.join inner).isAbsolute then (d.join inner).segments.dropWhile (· = "")
      else (d.join inner).segments) = leading d ++ Path.segments ⟨inner⟩ := by
    rw [Path.segments_join hd, Path.isAbsolute_join hd, leading]
    split
    · rw [List.dropWhile_append, hkept]
      split
      · rename_i hempty
        rw [List.isEmpty_iff.1 hempty, List.nil_append]
      · rfl
    · rfl
  have hend : (leading d ++ Path.segments ⟨inner⟩).getLast? ≠ some "" := by
    rwa [List.getLast?_append_of_ne_nil _ (Path.segments_ne_nil ⟨inner⟩)]
  simp only [stepParts, hparts, if_neg hend]

theorem steps_join {d : Path} {inner : String} {all : List Step} (hd : d.text ≠ "")
    (hplain : Plain d.text.toList) (hfirst : (Path.segments ⟨inner⟩).head? ≠ some "")
    (hlast : (Path.segments ⟨inner⟩).getLast? ≠ some "") (h : steps ⟨inner⟩ = .ok all) :
    steps (d.join inner) = .ok ((leading d).map stepOf ++ all) := by
  obtain ⟨⟨g, hg⟩, h⟩ := steps_eq_ok.1 h
  refine steps_eq_ok.2 ⟨parse_join hd hplain hg, ?_⟩
  have hleading : (leading d).map (fun part => Step.ofGlob <$> parse part) =
      ((leading d).map stepOf).map .ok := by
    rw [List.map_map]
    refine List.map_congr_left fun part hpart => ?_
    rw [parse_plain (plain_of_mem_parts hplain (mem_parts_of_mem_leading hpart))]
    rfl
  rw [stepParts_of_segments hfirst hlast] at h
  rw [stepParts_join hd hfirst hlast, List.map_append, List.map_append, hleading, h]

/-! ## Reaching the directory -/

variable {d : Path} {name : String} {f : Found} {q : Place}

theorem exists_mem_reach_stepOf {part : String} (hpart : Plain part.toList)
    (hslash : '/' ∉ part.toList) (htext : (within f.path part).text ≠ "")
    (hq : f.place.step part = some q) : ∃ g : Found, g.path = within f.path part ∧ g.place = q ∧
      ∀ rest, reach rest g ⊆ reach (stepOf part :: rest) f := by
  refine ⟨⟨within f.path part, part, q⟩, rfl, rfl, fun rest => ?_⟩
  obtain hstep | hstep := stepOf_eq hpart
  · have hentry : f.entry? part = some ⟨within f.path part, part, q⟩ := by
      simp [Found.entry?, htext, hq]
    rw [hstep, reach, hentry]
    simp
  · rw [hstep, reach]
    intro g hg
    refine List.mem_flatMap.2 ⟨_, List.mem_append_left _ ?_, hg⟩
    have hne : part ≠ "" ∧ part ≠ "." ∧ part ≠ ".." := by
      refine ⟨?_, ?_, ?_⟩ <;> rintro rfl <;> exact absurd hstep (by decide)
    cases (Place.moves_of_step hq).2 with
    | stay hnone => simp [Path.component?, hne] at hnone
    | atTop hup | up hup => exact absurd hup hne.2.2
    | @into _ t entry =>
      refine List.mem_map.2 ⟨(part, t), List.mem_filter.2 ⟨?_, ?_⟩, rfl⟩
      · exact FileTree.mem_of_lookup entry
      · exact isMatch_tokenOf part

/-- The steps of some parts lead to where the parts do, by a path with their components. In the
current directory nothing has the empty name, so no empty part may come right after its dots. -/
theorem exists_mem_reach_parts {parts : List String}
    (hparts : ∀ part ∈ parts, Plain part.toList ∧ '/' ∉ part.toList) (htext : f.path.text ≠ "")
    (hdots : f.path.components = [.current] → (parts.dropWhile (· = ".")).head? ≠ some "")
    (hq : parts.foldlM Place.step f.place = some q) :
    ∃ g : Found, g.place = q ∧ g.path.text ≠ "" ∧
      g.path.bare = f.path.bare ++ parts.filterMap Path.component? ∧
      ∀ rest, reach rest g ⊆ reach (parts.map stepOf ++ rest) f := by
  induction parts generalizing f with
  | nil =>
    cases hq
    exact ⟨f, rfl, htext, by simp, fun rest => List.Subset.refl _⟩
  | cons part parts ih =>
    obtain ⟨⟨hpart, hslash⟩, hparts⟩ := List.forall_mem_cons.1 hparts
    rw [List.foldlM_cons] at hq
    obtain ⟨r, hr, hq⟩ := Option.bind_eq_some_iff.1 hq
    have hne : f.path.components = [.current] → part ≠ "" := by
      rintro hcurrent rfl
      exact hdots hcurrent (by simp)
    have hwithin := text_within_ne htext hne
    obtain ⟨g, hpath, rfl, hg⟩ := exists_mem_reach_stepOf hpart hslash hwithin hr
    rw [← hpath] at hwithin
    have hdots' : g.path.components = [.current] →
        (parts.dropWhile (· = ".")).head? ≠ some "" := by
      intro hcurrent
      obtain ⟨hcurrent', rfl⟩ := eq_dot_of_within htext hslash (hpath ▸ hcurrent)
      simpa using hdots hcurrent'
    obtain ⟨last, hplace, hlast, hbare, hreach⟩ := ih hparts hwithin hdots' hq
    refine ⟨last, hplace, hlast, ?_, fun rest =>
      List.Subset.trans (hreach rest) (hg _)⟩
    rw [hbare, hpath, bare_within htext hslash]
    cases hc : Path.component? part <;> simp [hc]

section StartOf

variable (base : Place) (d : Path)

theorem place_startOf : (startOf base d).place = base.start d := by
  unfold startOf Place.start
  split <;> rfl

theorem text_startOf_ne : (startOf base d).path.text ≠ "" := by
  unfold startOf
  split <;> simp

theorem not_isAbsolute_of_startOf (h : (startOf base d).path.components = [.current]) :
    ¬ d.isAbsolute := by
  intro habsolute
  have hroot : Path.components ⟨"/"⟩ = [.root] := by decide
  simp [startOf, habsolute, hroot] at h

theorem bare_eq_leading :
    d.bare = (startOf base d).path.bare ++ (leading d).filterMap Path.component? := by
  rw [Path.bare_eq, ← Path.filterMap_parts, bare_startOf, leading]
  split
  · have hdropped : ∀ s : String, decide (s = "") → Path.component? s = none :=
      fun s hs => if_pos (by simpa using Or.inl hs)
    rw [Path.filterMap_dropWhile hdropped]
  · rfl

theorem foldlM_leading (hq : base.follow? d = some q) :
    (leading d).foldlM Place.step (base.start d) = some q := by
  have hfollow := Place.foldlM_step_parts (Place.follow?_eq_some_iff.1 hq).2
  unfold leading
  split
  · exact Place.foldlM_step_dropWhile hfollow
  · exact hfollow

end StartOf

/-- The path names the directory it leads to also where a pattern begins with it. After dots at the
start no slash is doubled: the current directory holds nothing of the empty name. -/
structure NamesItself (d : Path) : Prop where
  plain : Plain d.text.toList
  dots : ¬ d.isAbsolute → (d.parts.dropWhile (· = ".")).head? ≠ some ""

theorem exists_mem_reach_leading {base : Place} (hd : NamesItself d)
    (hq : base.follow? d = some q) :
    ∃ g : Found, g.place = q ∧ g.path.text ≠ "" ∧ g.path.bare = d.bare ∧
      ∀ rest, reach rest g ⊆ reach ((leading d).map stepOf ++ rest) (startOf base d) := by
  have hparts : ∀ part ∈ leading d, Plain part.toList ∧ '/' ∉ part.toList := fun part hpart =>
    have hmem := mem_parts_of_mem_leading hpart
    ⟨plain_of_mem_parts hd.plain hmem, Path.notMem_of_mem_parts hmem⟩
  have hdots : (startOf base d).path.components = [.current] →
      ((leading d).dropWhile (· = ".")).head? ≠ some "" := by
    intro hcurrent
    have habsolute := not_isAbsolute_of_startOf base d hcurrent
    rw [leading, if_neg habsolute]
    exact hd.dots habsolute
  have hleads : (leading d).foldlM Place.step (startOf base d).place = some q := by
    rw [place_startOf]
    exact foldlM_leading base d hq
  rw [bare_eq_leading base d]
  exact exists_mem_reach_parts hparts (text_startOf_ne base d) hdots hleads

end LookML.Glob
